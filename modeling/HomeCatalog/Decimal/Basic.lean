import HomeCatalog.Text.Digit

/-!
# Exact decimals

A decimal is a sign, a whole coefficient and a power of ten. Its coefficient and exponent are kept
as written, so `1.50` and `1.5` are different decimals of one value, and a zero has a sign.

`Decimal.InRange` bounds the exponent from both sides; every operation that makes a decimal out of
text checks it.
-/

namespace HomeCatalog

/-- The decimal `± coefficient · 10 ^ exponent`. -/
structure Decimal where
  negative : Bool
  coefficient : Nat
  exponent : Int
deriving DecidableEq, Repr

namespace Decimal

/-- The number that digits of any script spell, in base ten. -/
def digitsValue (cs : List Char) : Nat :=
  cs.foldl (fun n c => 10 * n + (Text.digitValue? c).getD 0) 0

/-- The digits of the coefficient; a zero has one. -/
def digits (d : Decimal) : List Char :=
  Nat.toDigits 10 d.coefficient

/-- The greatest exponent that a decimal may have in scientific notation. -/
def maxScale : Int := 999999999999999999

/-- The least power of ten that a coefficient may be counted in. -/
def minExponent : Int := -1999999999999999997

/-- The decimals that can be held. -/
def InRange (d : Decimal) : Prop :=
  d.exponent + d.digits.length - 1 ≤ maxScale ∧ minExponent ≤ d.exponent

instance (d : Decimal) : Decidable d.InRange :=
  inferInstanceAs (Decidable (_ ∧ _))

/-- The decimal with these digits before and after its point, times a power of ten. -/
def ofParts (negative : Bool) (whole fraction : List Char) (scale : Int) : Decimal :=
  { negative, coefficient := digitsValue (whole ++ fraction),
    exponent := scale - fraction.length }

/-- Whether the value is zero, of either sign. -/
def isZero (d : Decimal) : Bool :=
  d.coefficient == 0

end Decimal

end HomeCatalog
