import RouteProbe.Value

/-!
# Writing JSON

Values are written in ASCII on one line: every other character is escaped, those
beyond the basic plane as two escapes.  A value that JSON has no form for, bytes
or an error, is written as a text that quotes it.
-/

namespace RouteProbe
namespace Json

open Text

/-- One escape of a UTF-16 unit. -/
def unitEscape (n : Nat) : List Char := backslash :: 'u' :: hexText 4 n

/-- One character of a text. -/
def writeChar (c : Char) : List Char :=
  if c = doubleQuote || c = backslash then [backslash, c]
  else if isPrintableAscii c then [c]
  else if c = '\n' then [backslash, 'n']
  else if c = '\r' then [backslash, 'r']
  else if c = '\t' then [backslash, 't']
  else if c = '\x0c' then [backslash, 'f']
  else if c = '\x08' then [backslash, 'b']
  else if c.toNat < 0x10000 then unitEscape c.toNat
  else
    unitEscape (0xd800 + (c.toNat - 0x10000) / 0x400) ++
      unitEscape (0xdc00 + (c.toNat - 0x10000) % 0x400)

/-- A text between quotes. -/
def writeText (cs : List Char) : List Char :=
  doubleQuote :: cs.flatMap writeChar ++ [doubleQuote]

/-- A number; those that are not finite have names. -/
def writeReal : Number.Binary64 → List Char
  | .nan => "NaN".toList
  | .infinite false => "Infinity".toList
  | .infinite true => "-Infinity".toList
  | x => x.text

mutual

/-- Writes a value. -/
def write : Value → List Char
  | .null => "null".toList
  | .flag true => "true".toList
  | .flag false => "false".toList
  | .int n => intText n
  | .real x => writeReal x
  | .text s => writeText s.toList
  | .bytes bs => writeText (quotedBytes bs)
  | .error k m => writeText (Value.quotedText (.error k m))
  | .list vs => '[' :: writeItems vs ++ [']']
  | .object ms => '\x7b' :: writeMembers ms ++ ['\x7d']

/-- Values between brackets. -/
def writeItems : List Value → List Char
  | [] => []
  | v :: vs => write v ++ writeMoreItems vs

/-- Values after the first, each with the comma before it. -/
def writeMoreItems : List Value → List Char
  | [] => []
  | v :: vs => ',' :: ' ' :: write v ++ writeMoreItems vs

/-- Members between braces. -/
def writeMembers : List (String × Value) → List Char
  | [] => []
  | m :: ms => writeMember m ++ writeMoreMembers ms

/-- Members after the first, each with the comma before it. -/
def writeMoreMembers : List (String × Value) → List Char
  | [] => []
  | m :: ms => ',' :: ' ' :: writeMember m ++ writeMoreMembers ms

/-- A member: its name as a text, and its value. -/
def writeMember : String × Value → List Char
  | (k, v) => writeText k.toList ++ ':' :: ' ' :: write v

end

end Json
end RouteProbe
