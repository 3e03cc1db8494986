import TwinSyntax.Rational

/-!
# Decimal notation

A numeral is a run of digits with at most one point in it, optionally followed by `e` or `E` and
a signed exponent: `3`, `3.5`, `3.`, `.5`, `1e3`, `2.5E-2`. Its value is exact.

**Limits.** The exponent has to fit a 64-bit word. The power of ten that the digits are scaled
by, which is the exponent less the number of digits behind the point, is at most `maxScale` in
either direction.
-/

namespace TwinSyntax.Decimal

/-- The natural number that a run of digits denotes. -/
def natOfDigits (digits : List Char) : Nat :=
  digits.foldl (fun n d => 10 * n + (d.toNat - '0'.toNat)) 0

/-- The largest power of ten that digits are scaled by, in either direction. -/
def maxScale : Nat := 4096

/-- Two to the power of 63: the first natural number that does not fit a signed 64-bit word. -/
def wordLimit : Nat := 9223372036854775808

/-- Whether `n` fits a signed 64-bit word. -/
def FitsWord (n : Int) : Prop := -wordLimit ≤ n ∧ n < wordLimit

instance (n : Int) : Decidable (FitsWord n) := inferInstanceAs (Decidable (_ ∧ _))

/-- A run of one or more digits. -/
def natural? (text : List Char) : Option Nat :=
  if text ≠ [] ∧ text.all Char.isDigit then some (natOfDigits text) else none

/-- A run of digits that may have a sign in front. -/
def integer? : List Char → Option Int
  | '+' :: digits => (natural? digits).map Int.ofNat
  | '-' :: digits => (natural? digits).map fun n => -Int.ofNat n
  | digits => (natural? digits).map Int.ofNat

/-- `text` up to its first character in the class `stop`, and what lies behind that character. -/
def cutAt (stop : Char → Bool) (text : List Char) : List Char × Option (List Char) :=
  match text.dropWhile fun c => !stop c with
  | [] => (text, none)
  | _ :: behind => (text.takeWhile fun c => !stop c, some behind)

/-- Whether `c` introduces an exponent. -/
def isExponentMark (c : Char) : Bool := c == 'e' || c == 'E'

/-- A numeral taken apart: the digits in front of the point, those behind it, the exponent. -/
structure Numeral where
  whole : List Char
  fraction : List Char
  exponent : Int
  deriving DecidableEq, Repr

namespace Numeral

/-- Takes `text` apart at its first exponent mark and the part before that at its first point.
No point is the same as no digits behind it, and no exponent mark the same as exponent zero. -/
def ofText? (text : List Char) : Option Numeral :=
  let (mantissa, exponentText) := cutAt isExponentMark text
  let (whole, fractionText) := cutAt (· == '.') mantissa
  let fraction := fractionText.getD []
  if (whole ≠ [] ∨ fraction ≠ []) ∧ whole.all Char.isDigit ∧ fraction.all Char.isDigit then
    match exponentText with
    | none => some ⟨whole, fraction, 0⟩
    | some exponentText => (integer? exponentText).map fun exponent => ⟨whole, fraction, exponent⟩
  else none

/-- The power of ten that the digits are scaled by. -/
def scale (n : Numeral) : Int := n.exponent - n.fraction.length

/-- Whether the numeral keeps to the limits on its exponent and its scale. -/
def InRange (n : Numeral) : Prop :=
  FitsWord n.exponent ∧ FitsWord n.fraction.length ∧ n.scale.natAbs ≤ maxScale

instance (n : Numeral) : Decidable n.InRange := inferInstanceAs (Decidable (_ ∧ _))

/-- All digits as one number, times ten to the scale. -/
def value (n : Numeral) : Rat :=
  let digits := natOfDigits (n.whole ++ n.fraction)
  let power := Nat.pow 10 n.scale.natAbs
  if 0 ≤ n.scale then mkRat (digits * power) 1 else mkRat digits power

end Numeral

/-- The value of decimal text, unless it is no numeral or its numeral is out of range. -/
def parse? (text : List Char) : Option Rat :=
  (Numeral.ofText? text).bind fun n => if n.InRange then some n.value else none

example : parse? "2.5E-2".toList = some (mkRat 1 40) := by decide +kernel

example : parse? "007.50".toList = some (mkRat 15 2) := by decide +kernel

example : parse? ".".toList = none ∧ parse? "1e".toList = none ∧ parse? "1.2.3".toList = none := by
  decide +kernel

/-- The limit is on the scale and not on the exponent. -/
example : (parse? ".5e4097".toList).isSome ∧ parse? "5e4097".toList = none := by decide +kernel

end TwinSyntax.Decimal
