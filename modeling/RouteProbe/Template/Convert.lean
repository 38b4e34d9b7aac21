import RouteProbe.Template.Basic

/-!
# Conversions

Each conversion letter turns a value into a sign, a marker of the base, and a
body; `Layout.pad` then fills up the width.  Numbers that are filled with zeros
keep their sign and marker in front of the fill.
-/

namespace RouteProbe
namespace Template

open Text Number

/-- The parts of a converted value. -/
structure Converted where
  sign : List Char
  marker : List Char
  body : List Char
  numeric : Bool
  deriving Repr, DecidableEq

/-- A converted text, cut to the precision. -/
def Converted.ofText (l : Layout) (cs : List Char) : Converted :=
  ⟨[], [], match l.precision with | some p => cs.take p | none => cs, false⟩

/-- The sign that is written: a minus, or what the flags ask for. -/
def signFor (f : Flags) (negative : Bool) : List Char :=
  if negative then ['-'] else if f.sign then ['+'] else if f.blank then [' '] else []

/-- Puts a converted value into its width. -/
def Layout.pad (l : Layout) (c : Converted) : List Char :=
  let used := c.sign.length + c.marker.length + c.body.length
  let fill := l.width - used
  if l.flags.left then c.sign ++ c.marker ++ c.body ++ List.replicate fill ' '
  else if l.flags.zero && c.numeric then
    c.sign ++ c.marker ++ List.replicate fill '0' ++ c.body
  else List.replicate fill ' ' ++ c.sign ++ c.marker ++ c.body

/-- Digits in a base, with zeros up to the precision. -/
def integerDigits (l : Layout) (base : Nat) (n : Nat) : List Char :=
  let ds := Nat.toDigits base n
  List.replicate (l.precision.getD 0 - ds.length) '0' ++ ds

/-- An ASCII letter in upper case. -/
def upperAscii (c : Char) : Char :=
  if 'a' ≤ c ∧ c ≤ 'z' then Char.ofNat (c.toNat - 32) else c

/-- Converts an integer by the letter of its base. -/
def convertInteger (l : Layout) (letter : Char) (n : Int) : Converted :=
  let base := if letter = 'o' then 8 else if letter = 'x' || letter = 'X' then 16 else 10
  let ds := integerDigits l base n.natAbs
  let marker :=
    if l.flags.alternate && base ≠ 10 then ['0', if base = 8 then 'o' else 'x'] else []
  let c : Converted := ⟨signFor l.flags (n < 0), marker, ds, true⟩
  if letter = 'X' then { c with marker := c.marker.map upperAscii, body := c.body.map upperAscii }
  else c

/-- The integer that a number is cut to. -/
def truncated : Binary64 → Except TemplateError Int
  | .nan => .error .nanHasNoInteger
  | .infinite _ => .error .infinityHasNoInteger
  | .finite s m e =>
      let (n, d) := Binary64.ratio m e
      .ok (if s then -((n / d : Nat) : Int) else (n / d : Nat))

/-- The integer that a conversion takes from a value. -/
def integerOf (letter : Char) : Value → Except TemplateError Int
  | .int n => .ok n
  | .flag b => .ok (if b then 1 else 0)
  | .real x =>
      if letter = 'o' || letter = 'x' || letter = 'X' then
        .error (.integerNeeded letter (Value.real x).kindName)
      else truncated x
  | v =>
      if letter = 'o' || letter = 'x' || letter = 'X' then .error (.integerNeeded letter v.kindName)
      else .error (.numberNeeded letter v.kindName)

/-- The number nearest to an integer. -/
def realOfInt (n : Int) : Except TemplateError Binary64 :=
  match Binary64.ofRatio (n < 0) n.natAbs 1 with
  | .infinite _ => .error .integerTooLarge
  | x => .ok x

/-- The real number that a conversion takes from a value. -/
def realOf : Value → Except TemplateError Binary64
  | .real x => .ok x
  | .int n => realOfInt n
  | .flag b => realOfInt (if b then 1 else 0)
  | v => .error (.realNeeded v.kindName)

/-- Drops zeros at the end of digits after a point, and the point with them. -/
def stripZeros (cs : List Char) : List Char :=
  if cs.contains '.' then
    match dropEndWhile (· = '0') cs with
    | ds => if ds.getLast? = some '.' then ds.dropLast else ds
  else cs

/-- A finite size with `places` digits after the point and an exponent. -/
def scientific (m : Nat) (e : Int) (places : Nat) (point : Bool) : List Char :=
  let (ds, place) :=
    if m = 0 then (List.replicate (places + 1) '0', 0)
    else
      let (n, d) := Binary64.ratio m e
      leadingDigits n d (places + 1)
  let body := match ds with
    | d :: rest => if rest.isEmpty && !point then [d] else d :: '.' :: rest
    | [] => []
  body ++ 'e' :: exponentText place

/-- A finite size in place, with `places` digits after the point. -/
def positional (m : Nat) (e : Int) (places : Nat) (point : Bool) : List Char :=
  let (n, d) := Binary64.ratio m e
  let cs := fixedText n d places
  if places = 0 && point then cs ++ ['.'] else cs

/-- A finite size with `count` digits that count, in place or with an exponent,
whichever suits its size; zeros at the end go unless `point` keeps them. -/
def general (m : Nat) (e : Int) (count : Nat) (point : Bool) : List Char :=
  let count := max count 1
  let (n, d) := Binary64.ratio m e
  let place := if m = 0 then 0 else (leadingDigits n d count).2
  if -4 ≤ place ∧ place < count then
    let cs := positional m e ((count : Int) - 1 - place).toNat point
    if point then cs else stripZeros cs
  else
    let cs := scientific m e (count - 1) point
    if point then cs
    else stripZeros (cs.takeWhile (· ≠ 'e')) ++ cs.dropWhile (· ≠ 'e')

/-- Converts a real number. -/
def convertReal (l : Layout) (letter : Char) (x : Binary64) : Converted :=
  let places := l.precision.getD 6
  let point := l.flags.alternate
  let body := match x with
    | .nan => ['n', 'a', 'n']
    | .infinite _ => ['i', 'n', 'f']
    | .finite _ m e =>
        if letter = 'e' || letter = 'E' then scientific m e places point
        else if letter = 'f' || letter = 'F' then positional m e places point
        else general m e places point
  let body := if letter = 'E' || letter = 'F' || letter = 'G' then body.map upperAscii else body
  ⟨signFor l.flags x.isNegative, [], body, true⟩

/-- The character that a conversion takes from a value. -/
def characterOf : Value → Except TemplateError Char
  | .text s => match s.toList with
    | [c] => .ok c
    | _ => .error .characterNeeded
  | .int n =>
      if 0 ≤ n ∧ n < 0x110000 then .ok (Char.ofNat n.toNat) else .error .characterOutOfRange
  | .flag b => .ok (Char.ofNat (if b then 1 else 0))
  | _ => .error .characterNeeded

/-- The letters of the conversions to an integer. -/
def integerLetters : List Char := ['d', 'i', 'u', 'o', 'x', 'X']

/-- The letters of the conversions to a real number. -/
def realLetters : List Char := ['e', 'E', 'f', 'F', 'g', 'G']

/-- Converts a value; `index` is where the letter stands. -/
def convert (l : Layout) (letter : Char) (index : Nat) (v : Value) :
    Except TemplateError (List Char) :=
  if letter = 's' then .ok (l.pad (.ofText l v.plainText))
  else if letter = 'r' then .ok (l.pad (.ofText l v.quotedText))
  else if letter = 'a' then
    .ok (l.pad (.ofText l (v.quotedText.flatMap fun c =>
      if c.toNat < 0x80 then [c] else numericEscape c.toNat)))
  else if integerLetters.contains letter then
    (integerOf letter v).map fun n => l.pad (convertInteger l letter n)
  else if realLetters.contains letter then
    (realOf v).map fun x => l.pad (convertReal l letter x)
  else if letter = 'c' then (characterOf v).map fun c => l.pad ⟨[], [], [c], false⟩
  else .error (.unknownConversion letter index)

end Template
end RouteProbe
