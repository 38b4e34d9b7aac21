import RouteProbe.Text.Blank
import RouteProbe.Text.Digit

/-!
# Lenient integers

A port number, and the width of a terminal, may be written with blanks around
it, with a sign, with digits of any script, and with single underscores between
digits.  A text of more than 4300 digits is refused unread.
-/

namespace RouteProbe
namespace Text

/-- A blank that may stand around an integer: the ASCII separators do not count. -/
def isIntegerBlank (c : Char) : Bool :=
  isBlank c && !(0x1c ≤ c.toNat && c.toNat ≤ 0x1f)

/-- The most digits an integer may be written with. -/
def maxDigits : Nat := 4300

/-- Reads digits in which single underscores may stand, given the number read so
far and whether the last character was a digit; answers with the number of
digits and their value. -/
def readDigits? (count value : Nat) (afterDigit : Bool) : List Char → Option (Nat × Nat)
  | [] => if afterDigit then some (count, value) else none
  | c :: cs =>
      match digitValue? c with
      | some d => readDigits? (count + 1) (value * 10 + d) true cs
      | none => if c = '_' && afterDigit then readDigits? count value false cs else none

/-- Reads an unsigned integer. -/
def readNatural? (cs : List Char) : Option Nat :=
  match readDigits? 0 0 false cs with
  | some (count, value) => if count ≤ maxDigits then some value else none
  | none => none

/-- Reads an integer. -/
def readInteger? (cs : List Char) : Option Int :=
  match dropEndWhile isIntegerBlank (cs.dropWhile isIntegerBlank) with
  | '-' :: ds => (readNatural? ds).map fun n => -(n : Int)
  | '+' :: ds => (readNatural? ds).map fun n => (n : Int)
  | ds => (readNatural? ds).map fun n => (n : Int)

@[simp] theorem readInteger?_nil : readInteger? [] = none := rfl

/-- The decimal digits of a natural number. -/
def natText (n : Nat) : List Char := Nat.toDigits 10 n

/-- The decimal text of an integer. -/
def intText : Int → List Char
  | .ofNat n => natText n
  | .negSucc n => '-' :: natText (n + 1)

end Text
end RouteProbe
