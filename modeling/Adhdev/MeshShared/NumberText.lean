import Adhdev.MeshShared.TurnEvidence
import Mathlib.Algebra.Order.Field.Rat
import Mathlib.Data.Int.Log
import Mathlib.Data.Rat.Floor
import Mathlib.Order.WithBot

/-! # Texts that are read as numbers

`Number(text)`: digits in a base, decimals with a fraction and an exponent, and
the double nearest to them.
-/

namespace Adhdev.MeshShared

/-- `\d+` -/
def isDigits (text : List Char) : Bool := text ≠ [] && text.all Char.isDigit

def valueOf (digits : List Char) : Nat :=
  digits.foldl (fun value digit => value * 10 + (digit.toNat - 48)) 0

/-- The double nearest to a value that is not negative, the even one of two;
infinity past the last. -/
def nearestDouble (value : ℚ) : WithTop ℚ :=
  let step : ℚ := 2 ^ max (Int.log 2 value - 52) (-1074)
  let below := ⌊value / step⌋
  let excess := value / step - below
  let rounded : ℚ :=
    (if excess < 1 / 2 ∨ excess = 1 / 2 ∧ below % 2 = 0 then below else below + 1) * step
  if rounded < 2 ^ 1024 then rounded else ⊤

def powerOfTen : List Char → Option Int
  | [] => some 0
  | _ :: '-' :: digits => if isDigits digits then some (-valueOf digits) else none
  | _ :: '+' :: digits | _ :: digits => if isDigits digits then some (valueOf digits) else none

/-- A decimal without its sign. -/
def readDecimal (text : List Char) : Option (WithTop ℚ) :=
  if text = "Infinity".toList then some ⊤
  else
    let (decimal, exponent) := text.span fun char => char ≠ 'e' ∧ char ≠ 'E'
    let (whole, fraction) := decimal.span (· ≠ '.')
    let digits := whole ++ fraction.tail
    if isDigits digits then
      (powerOfTen exponent).map fun power : Int =>
        nearestDouble ((valueOf digits : ℚ) * 10 ^ (power - fraction.tail.length))
    else none

def digitOf (char : Char) : Nat :=
  if char.isDigit then char.toNat - 48
  else if char.isAlpha then char.toLower.toNat - 87
  else 36

def readInBase (base : Nat) (digits : List Char) : Option (WithTop ℚ) :=
  if digits ≠ [] && digits.all (digitOf · < base) then
    some (nearestDouble (digits.foldl (fun value digit => value * base + digitOf digit) 0 : Nat))
  else none

/-- `Number(text) <= bound`, of a bound that is not negative; `NaN` is not. -/
def numberAtMost (text : String) (bound : Nat) : Bool :=
  let bounded (value : Option (WithTop ℚ)) := value.any (· ≤ ((bound : ℚ) : WithTop ℚ))
  match (trim text).toList with
  | [] => true
  | '-' :: text => (readDecimal text).isSome
  | '+' :: text => bounded (readDecimal text)
  | '0' :: 'x' :: digits | '0' :: 'X' :: digits => bounded (readInBase 16 digits)
  | '0' :: 'o' :: digits | '0' :: 'O' :: digits => bounded (readInBase 8 digits)
  | '0' :: 'b' :: digits | '0' :: 'B' :: digits => bounded (readInBase 2 digits)
  | text => bounded (readDecimal text)

end Adhdev.MeshShared
