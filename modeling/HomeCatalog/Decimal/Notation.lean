import HomeCatalog.Decimal.Basic

/-!
# Decimal notation

Two ways to write a decimal. `Decimal.fixed` has no exponent. `Decimal.scientific` writes the
coefficient digit by digit and has an exponent where the point would otherwise stand right of the
last digit or more than six places left of the first.
-/

namespace HomeCatalog.Decimal

/-- The minus sign of a negative decimal. -/
def sign (d : Decimal) : List Char :=
  if d.negative then ['-'] else []

/-- Digits with a point that has `places` of them behind it. -/
def pointed (ds : List Char) (places : Nat) : List Char :=
  if places = 0 then ds
  else if places < ds.length then
    ds.take (ds.length - places) ++ '.' :: ds.drop (ds.length - places)
  else '0' :: '.' :: (List.replicate (places - ds.length) '0' ++ ds)

/-- The decimal without an exponent: an optional sign, digits, and a point with digits behind it if
the exponent is negative. -/
def fixedChars (d : Decimal) : List Char :=
  d.sign ++
    if 0 ≤ d.exponent then
      if d.isZero then ['0'] else d.digits ++ List.replicate d.exponent.toNat '0'
    else pointed d.digits (-d.exponent).toNat

/-- The decimal without an exponent. -/
def fixed (d : Decimal) : String :=
  String.ofList d.fixedChars

/-- An exponent with its sign. -/
def exponentChars (e : Int) : List Char :=
  'E' :: (if 0 ≤ e then '+' else '-') :: Nat.toDigits 10 e.natAbs

/-- The decimal with its coefficient as it is, and an exponent where the point needs one. -/
def scientificChars (d : Decimal) : List Char :=
  let scale := d.exponent + d.digits.length - 1
  d.sign ++
    if d.exponent ≤ 0 ∧ -6 ≤ scale then pointed d.digits (-d.exponent).toNat
    else pointed d.digits (d.digits.length - 1) ++ exponentChars scale

/-- The decimal with its coefficient as it is, and an exponent where the point needs one. -/
def scientific (d : Decimal) : String :=
  String.ofList d.scientificChars

end HomeCatalog.Decimal
