/-!
# Binary floating-point numbers

A number of 64 bits is kept as the mantissa and exponent that it stands for, so
that reading a decimal and choosing digits are questions about natural numbers.
A finite number is `mantissa * 2 ^ exponent`, the mantissa below `2 ^ 53` and the
exponent at least `-1074`; the exponent is the least that keeps the number.

Reading a ratio rounds to the nearest of these numbers, a tie going to the even
mantissa.
-/

namespace RouteProbe
namespace Number

/-- A floating-point number of 64 bits. -/
inductive Binary64 where
  | nan
  | infinite (negative : Bool)
  | finite (negative : Bool) (mantissa : Nat) (exponent : Int)
  deriving Repr, DecidableEq

/-- The quotient rounded to the nearest natural number, a tie to the even one. -/
def roundDiv (num den : Nat) : Nat :=
  let q := num / den
  let twice := 2 * (num % den)
  if twice < den then q
  else if den < twice then q + 1
  else if q % 2 = 0 then q else q + 1

/-- The ratio `num / (den * 2 ^ e)`, as a numerator and a denominator. -/
def scaleBinary (num den : Nat) (e : Int) : Nat × Nat :=
  if 0 ≤ e then (num, den * Nat.pow 2 e.toNat) else (num * Nat.pow 2 (-e).toNat, den)

/-- The ratio `num / (den * 10 ^ k)`, as a numerator and a denominator. -/
def scaleDecimal (num den : Nat) (k : Int) : Nat × Nat :=
  if 0 ≤ k then (num, den * Nat.pow 10 k.toNat) else (num * Nat.pow 10 (-k).toNat, den)

namespace Binary64

/-- Zero. -/
def zero (negative : Bool) : Binary64 := .finite negative 0 (-1074)

/-- The exponent at which a positive ratio has a mantissa of 53 bits, or the
least exponent if it has none. -/
def exponentOf (num den : Nat) : Int :=
  let e : Int := (num.log2 : Int) - den.log2 - 52
  let (n, d) := scaleBinary num den e
  max (if n / d < Nat.pow 2 52 then e - 1 else e) (-1074)

/-- The number nearest to a ratio. -/
def ofRatio (negative : Bool) (num den : Nat) : Binary64 :=
  if num = 0 then zero negative
  else
    let e := exponentOf num den
    let (n, d) := scaleBinary num den e
    let m := roundDiv n d
    let (m, e) := if m = Nat.pow 2 53 then (Nat.pow 2 52, e + 1) else (m, e)
    if 971 < e then .infinite negative else .finite negative m e

/-- The number nearest to `digits * 10 ^ scale`.  A decimal far outside the range
is decided by its size alone. -/
def ofDecimal (negative : Bool) (digits : Nat) (scale : Int) : Binary64 :=
  if digits = 0 then zero negative
  else if 310 < scale then .infinite negative
  else if (digits.log2 : Int) + 1 + 3 * scale < -1080 then zero negative
  else
    let (n, d) := scaleDecimal digits 1 (-scale)
    ofRatio negative n d

/-- The size of a finite number as a ratio. -/
def ratio (mantissa : Nat) (exponent : Int) : Nat × Nat :=
  if 0 ≤ exponent then (mantissa * Nat.pow 2 exponent.toNat, 1)
  else (mantissa, Nat.pow 2 (-exponent).toNat)

/-- The number is negative, negative zero included. -/
def isNegative : Binary64 → Bool
  | .nan => false
  | .infinite s => s
  | .finite s _ _ => s

end Binary64
end Number
end RouteProbe
