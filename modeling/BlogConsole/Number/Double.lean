/-!
Double-precision binary numbers, with exact arithmetic on whole numbers.

A finite number is `± mantissa * 2 ^ exponent`. Rounding takes the nearest number, and of two the
one with the even mantissa; what lies past the greatest number becomes infinite.
-/

namespace BlogConsole

inductive Double
  | finite (negative : Bool) (mantissa : Nat) (exponent : Int)
  | infinite (negative : Bool)
  | nan
  deriving DecidableEq, Repr

namespace Double

def minExponent : Int := -1074

def maxExponent : Int := 971

/-- The least mantissa of a number whose exponent is not the least one. -/
def normalMantissa : Nat := Nat.pow 2 52

/-- The quotient of two whole numbers, rounded to the nearest whole number, a half to the even
neighbour. -/
def roundQuotient (num den : Nat) : Nat :=
  let q := num / den
  let r := num % den
  if den < 2 * r ∨ (den = 2 * r ∧ q % 2 = 1) then q + 1 else q

/-- The fraction `num / den * 2 ^ e` as numerator and denominator. -/
def scaleTwo (num den : Nat) (e : Int) : Nat × Nat :=
  if 0 ≤ e then (num * Nat.pow 2 e.toNat, den) else (num, den * Nat.pow 2 (-e).toNat)

/-- The greatest `e` with `2 ^ e ≤ num / den`, for positive numbers. -/
def log2Quotient (num den : Nat) : Int :=
  let e : Int := (Nat.log2 num : Int) - Nat.log2 den
  let (n, d) := scaleTwo num den (-e)
  if d ≤ n then e else e - 1

def ofRatio (negative : Bool) (num den : Nat) : Double :=
  if num = 0 then finite negative 0 minExponent
  else
    let e := max minExponent (log2Quotient num den - 52)
    let (n, d) := scaleTwo num den (-e)
    let m := roundQuotient n d
    let (m, e) := if m = 2 * normalMantissa then (normalMantissa, e + 1) else (m, e)
    if maxExponent < e then infinite negative else finite negative m e

def ofInt (n : Int) : Double := ofRatio (n < 0) n.natAbs 1

/-- The number nearest to `digits * 10 ^ exponent`. Far outside the range of finite numbers no
power is computed. -/
def ofDecimal (negative : Bool) (digits : Nat) (exponent : Int) : Double :=
  let magnitude := exponent + (Nat.toDigits 10 digits).length
  if digits = 0 ∨ magnitude < -400 then finite negative 0 minExponent
  else if 400 < magnitude then infinite negative
  else if 0 ≤ exponent then ofRatio negative (digits * Nat.pow 10 exponent.toNat) 1
  else ofRatio negative digits (Nat.pow 10 (-exponent).toNat)

/-- The product with the fraction `num / den`, rounded once. -/
def scale (num den : Nat) : Double → Double
  | finite negative m e =>
    let (n, d) := scaleTwo m 1 e
    ofRatio negative (n * num) (d * den)
  | x => x

/-- The number is greater in magnitude than a whole number. -/
def exceeds (n : Nat) : Double → Bool
  | finite _ m e =>
    let (num, den) := scaleTwo m 1 e
    n * den < num
  | infinite _ => true
  | nan => false

end Double

end BlogConsole
