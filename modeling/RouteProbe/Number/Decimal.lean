import RouteProbe.Number.Binary64

/-!
# Decimal texts of floating-point numbers

The shortest text of a number has the fewest digits that read back as it, and of
those the digits nearest to it.  For each count of digits the number has two
neighbours on that decimal grid, and if any point of the grid reads back then
one of the two does; so trying the counts in turn finds the fewest.

Layout is apart from the choice of digits: digits are written in place when the
point falls within sixteen of them, and with an exponent otherwise.
-/

namespace RouteProbe
namespace Number

/-- A positive decimal, `digits * 10 ^ scale`. -/
structure Decimal where
  digits : Nat
  scale : Int
  deriving Repr, DecidableEq

/-- The decimal digits of a number. -/
def decimalDigits (n : Nat) : List Char := Nat.toDigits 10 n

/-- The place of the leading digit of a positive ratio: the greatest `p` with
`10 ^ p ≤ num / den`. -/
def leadingPlace (num den : Nat) : Int :=
  if den ≤ num then (decimalDigits (num / den)).length - 1
  else
    let t := (decimalDigits (den / num)).length
    if num * Nat.pow 10 (t - 1) = den then -((t : Int) - 1) else -(t : Int)

namespace Decimal

/-- The two neighbours of a ratio on the grid of step `10 ^ scale`, the nearer
first and the even one first in a tie. -/
def neighbours (num den : Nat) (scale : Int) : List Decimal :=
  let (n, d) := scaleDecimal num den scale
  let low := n / d
  let near := roundDiv n d
  if n % d = 0 then [⟨low, scale⟩]
  else if near = low then [⟨low, scale⟩, ⟨low + 1, scale⟩]
  else [⟨low + 1, scale⟩, ⟨low, scale⟩]

/-- The decimal reads back as the number of this mantissa and exponent. -/
def readsBack (mantissa : Nat) (exponent : Int) (d : Decimal) : Bool :=
  Binary64.ofDecimal false d.digits d.scale == .finite false mantissa exponent

/-- The shortest decimal that reads back as a positive number; one of seventeen
digits always does. -/
def shortest (mantissa : Nat) (exponent : Int) : Decimal :=
  let (num, den) := Binary64.ratio mantissa exponent
  let place := leadingPlace num den
  let candidates := (List.range 17).flatMap fun (n : Nat) => neighbours num den (place - n)
  (candidates.find? (readsBack mantissa exponent)).getD ⟨num, 0⟩

/-- Drops trailing zeros among the digits. -/
def strip (d : Decimal) : List Char × Int :=
  let ds := decimalDigits d.digits
  let kept := (ds.reverse.dropWhile (· = '0')).reverse
  (kept, d.scale + (ds.length - kept.length : Nat))

end Decimal

/-- An exponent with its sign and at least two digits. -/
def exponentText (e : Int) : List Char :=
  let ds := decimalDigits e.natAbs
  (if e < 0 then '-' else '+') :: (if ds.length < 2 then '0' :: ds else ds)

/-- Digits with a point after the first, if more follow. -/
def pointedDigits : List Char → List Char
  | d :: e :: ds => d :: '.' :: e :: ds
  | ds => ds

/-- Lays out digits whose last stands at place `scale`: in place from four zeros
after the point up to sixteen digits before it, and with an exponent elsewhere. -/
def layout (digits : List Char) (scale : Int) : List Char :=
  let point : Int := digits.length + scale
  if -4 < point ∧ point ≤ 16 then
    if 0 ≤ scale then digits ++ List.replicate scale.toNat '0' ++ ['.', '0']
    else if 0 < point then digits.take point.toNat ++ '.' :: digits.drop point.toNat
    else '0' :: '.' :: List.replicate (-point).toNat '0' ++ digits
  else pointedDigits digits ++ 'e' :: exponentText (point - 1)

/-- The sign of a number, if it is negative. -/
def signText (negative : Bool) : List Char := if negative then ['-'] else []

/-- The shortest text of a number. -/
def Binary64.text : Binary64 → List Char
  | .nan => ['n', 'a', 'n']
  | .infinite s => signText s ++ ['i', 'n', 'f']
  | .finite s m e =>
      if m = 0 then signText s ++ ['0', '.', '0']
      else
        let (ds, scale) := (Decimal.shortest m e).strip
        signText s ++ layout ds scale

/-- The size of a ratio rounded to `places` digits after the point. -/
def fixedText (num den places : Nat) : List Char :=
  let ds := decimalDigits (roundDiv (num * Nat.pow 10 places) den)
  let ds := List.replicate (places + 1 - ds.length) '0' ++ ds
  let whole := ds.take (ds.length - places)
  if places = 0 then whole else whole ++ '.' :: ds.drop (ds.length - places)

/-- The `count` leading digits of a positive ratio, rounded, and the place of the
first of them. -/
def leadingDigits (num den count : Nat) : List Char × Int :=
  let place := leadingPlace num den
  let (n, d) := scaleDecimal num den (place - (count - 1))
  let ds := decimalDigits (roundDiv n d)
  if count < ds.length then (ds.take count, place + 1) else (ds, place)

end Number
end RouteProbe
