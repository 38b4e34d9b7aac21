import RouteProbe.Value

/-!
# Reading JSON

The reader takes the grammar of the standard and a little more: the names `NaN`,
`Infinity` and `-Infinity` are numbers.  Of two members with one name the last
counts.  A whole number stays exact and may have at most 4300 digits; a number
with a point or an exponent is the nearest binary one.

Reading a value answers with the rest of the text.  The count that bounds the
nesting is the length of the text, which no reading exhausts.
-/

namespace RouteProbe
namespace Json

open Text

/-- A blank between tokens. -/
def isSpace (c : Char) : Bool := c = ' ' || c = '\t' || c = '\n' || c = '\r'

/-- Drops blanks. -/
def skipSpace (cs : List Char) : List Char := cs.dropWhile isSpace

/-- The unit that four hexadecimal digits write. -/
def unit? (a b c d : Char) : Option Nat :=
  if [a, b, c, d].all fun x => (hexValue? x).isSome then some (hexNumber [a, b, c, d]) else none

/-- The character of two units, if they are a surrogate pair. -/
def pair? (high low : Nat) : Option Char :=
  if 0xd800 ≤ high ∧ high < 0xdc00 ∧ 0xdc00 ≤ low ∧ low < 0xe000 then
    some (Char.ofNat (0x10000 + (high - 0xd800) * 0x400 + (low - 0xdc00)))
  else none

/-- The character of one unit.  Half of a pair alone is none, and no text can hold it: it is
replaced. -/
def single (n : Nat) : Char :=
  if 0xd800 ≤ n ∧ n < 0xe000 then '\ufffd' else Char.ofNat n

/-- The character that a one-letter escape stands for. -/
def escaped? (c : Char) : Option Char :=
  if c = doubleQuote || c = backslash || c = '/' then some c
  else if c = 'b' then some '\x08'
  else if c = 'f' then some '\x0c'
  else if c = 'n' then some '\n'
  else if c = 'r' then some '\r'
  else if c = 't' then some '\t'
  else none

/-- Half of a pair waiting for the other half. -/
def settle (half : Option Nat) (acc : List Char) : List Char :=
  match half with
  | some n => single n :: acc
  | none => acc

/-- Reads a text after its opening quote; `acc` is what has been read, last first,
and `half` the first half of a pair. -/
def readText (half : Option Nat) (acc : List Char) : List Char → Option (List Char × List Char)
  | [] => none
  | '\x5c' :: 'u' :: a :: b :: c :: d :: cs =>
      match unit? a b c d with
      | none => none
      | some n =>
          match half.bind fun h => pair? h n with
          | some x => readText none (x :: acc) cs
          | none =>
              if 0xd800 ≤ n ∧ n < 0xdc00 then readText (some n) (settle half acc) cs
              else readText none (single n :: settle half acc) cs
  | '\x5c' :: e :: cs =>
      match escaped? e with
      | some x => readText none (x :: settle half acc) cs
      | none => none
  | c :: cs =>
      if c = doubleQuote then some ((settle half acc).reverse, cs)
      else if c = backslash || c.toNat < 0x20 then none
      else readText none (c :: settle half acc) cs

/-- The digits in front of a text, and what follows them. -/
def spanDigits (cs : List Char) : List Char × List Char :=
  (cs.takeWhile isAsciiDigit, cs.dropWhile isAsciiDigit)

/-- The digits after a point, if a point with digits comes next. -/
def readFraction (cs : List Char) : Option (List Char) × List Char :=
  match cs with
  | '.' :: rest =>
      match spanDigits rest with
      | ([], _) => (none, cs)
      | (ds, rest) => (some ds, rest)
  | _ => (none, cs)

/-- An exponent, if one comes next. -/
def readExponent (cs : List Char) : Option Int × List Char :=
  match cs with
  | e :: rest =>
      if e = 'e' || e = 'E' then
        let (negative, rest) := match rest with
          | '-' :: r => (true, r)
          | '+' :: r => (false, r)
          | r => (false, r)
        match spanDigits rest with
        | ([], _) => (none, cs)
        | (ds, rest) =>
            let n : Int := decimalNumber ds
            (some (if negative then -n else n), rest)
      else (none, cs)
  | [] => (none, cs)

/-- Reads a number whose sign has been read. -/
def readNumber (negative : Bool) (cs : List Char) : Option (Value × List Char) :=
  let whole := match cs with
    | '0' :: rest => (['0'], rest)
    | _ => spanDigits cs
  match whole with
  | ([], _) => none
  | (ds, rest) =>
      let (fraction, rest) := readFraction rest
      let (exponent, rest) := readExponent rest
      match fraction, exponent with
      | none, none =>
          if maxDigits < ds.length then none
          else
            let n : Int := decimalNumber ds
            some (.int (if negative then -n else n), rest)
      | _, _ =>
          let more := fraction.getD []
          let scale := exponent.getD 0 - more.length
          some (.real (.ofDecimal negative (decimalNumber (ds ++ more)) scale), rest)

/-- The rest of a text after a word, if it begins with that word. -/
def afterWord? : List Char → List Char → Option (List Char)
  | [], cs => some cs
  | w :: ws, c :: cs => if w = c then afterWord? ws cs else none
  | _ :: _, [] => none

/-- The words that are values. -/
def wordValues : List (String × Value) :=
  [("null", .null), ("true", .flag true), ("false", .flag false), ("NaN", .real .nan),
    ("Infinity", .real (.infinite false)), ("-Infinity", .real (.infinite true))]

/-- Reads a word or a number. -/
def readPlain (cs : List Char) : Option (Value × List Char) :=
  match wordValues.findSome? fun w => (afterWord? w.1.toList cs).map fun rest => (w.2, rest) with
  | some found => some found
  | none =>
      match cs with
      | '-' :: rest => readNumber true rest
      | _ => readNumber false cs

mutual

/-- Reads a value whose first character comes next. -/
def readValue : Nat → List Char → Option (Value × List Char)
  | 0, _ => none
  | fuel + 1, cs =>
      match cs with
      | '[' :: rest =>
          match skipSpace rest with
          | ']' :: rest => some (.list [], rest)
          | rest => readItems fuel [] rest
      | '\x7b' :: rest =>
          match skipSpace rest with
          | '\x7d' :: rest => some (.object [], rest)
          | rest => readMembers fuel [] rest
      | '\x22' :: rest =>
          (readText none [] rest).map fun (s, rest) => (.text (String.ofList s), rest)
      | _ => readPlain cs

/-- Reads the values of a list from one of them on; `acc` holds those before it,
last first. -/
def readItems : Nat → List Value → List Char → Option (Value × List Char)
  | 0, _, _ => none
  | fuel + 1, acc, cs =>
      match readValue fuel cs with
      | none => none
      | some (v, rest) =>
          match skipSpace rest with
          | ']' :: rest => some (.list (v :: acc).reverse, rest)
          | ',' :: rest => readItems fuel (v :: acc) (skipSpace rest)
          | _ => none

/-- Reads the members of an object from one of them on. -/
def readMembers : Nat → Members → List Char → Option (Value × List Char)
  | 0, _, _ => none
  | fuel + 1, acc, cs =>
      match cs with
      | '\x22' :: rest =>
          match readText none [] rest with
          | none => none
          | some (k, rest) =>
              match skipSpace rest with
              | ':' :: rest =>
                  match readValue fuel (skipSpace rest) with
                  | none => none
                  | some (v, rest) =>
                      let acc := acc.put (String.ofList k) v
                      match skipSpace rest with
                      | '\x7d' :: rest => some (.object acc, rest)
                      | ',' :: rest => readMembers fuel acc (skipSpace rest)
                      | _ => none
              | _ => none
      | _ => none

end

/-- Reads a text that holds one value and blanks around it. -/
def read (cs : List Char) : Option Value :=
  match readValue (2 * cs.length + 2) (skipSpace cs) with
  | some (v, rest) => if (skipSpace rest).isEmpty then some v else none
  | none => none

end Json
end RouteProbe
