import RouteProbe.Text.Printable

/-!
# Quoted text

A quoted text stands between two equal quotes, `'` unless the text holds that
one and not the other, and writes every character without a printed form as an
escape.  So a quoted text is one line whatever it quotes.  Quoted bytes are
marked by a `b` and escape every byte that is not printable ASCII.
-/

namespace RouteProbe
namespace Text

/-- The quote `'`. -/
def singleQuote : Char := '\x27'

/-- The quote `"`. -/
def doubleQuote : Char := '\x22'

/-- The escape character. -/
def backslash : Char := '\x5c'

/-- A hexadecimal digit in lower case. -/
def hexDigit (n : Nat) : Char :=
  if n < 10 then Char.ofNat (48 + n) else Char.ofNat (87 + n)

/-- The last `width` hexadecimal digits of a number. -/
def hexText : Nat → Nat → List Char
  | 0, _ => []
  | width + 1, n => hexText width (n / 16) ++ [hexDigit (n % 16)]

/-- The quote that a text is put in: `"` where the text holds `'` and no `"`. -/
def quoteFor (cs : List Char) : Char :=
  if cs.contains singleQuote && !cs.contains doubleQuote then doubleQuote else singleQuote

/-- The escape of a code point by its size. -/
def numericEscape (n : Nat) : List Char :=
  if n < 0x100 then backslash :: 'x' :: hexText 2 n
  else if n < 0x10000 then backslash :: 'u' :: hexText 4 n
  else backslash :: 'U' :: hexText 8 n

/-- One character inside quotes `q`, where `keep` says which characters have a
printed form. -/
def quotedChar (keep : Char → Bool) (q c : Char) : List Char :=
  if c = q || c = backslash then [backslash, c]
  else if c = '\t' then [backslash, 't']
  else if c = '\n' then [backslash, 'n']
  else if c = '\r' then [backslash, 'r']
  else if keep c then [c]
  else numericEscape c.toNat

/-- A text in quotes, where `keep` says which characters have a printed form. -/
def quotedBy (keep : Char → Bool) (cs : List Char) : List Char :=
  quoteFor cs :: cs.flatMap (quotedChar keep (quoteFor cs)) ++ [quoteFor cs]

/-- A printable ASCII character. -/
def isPrintableAscii (c : Char) : Bool := 0x20 ≤ c.toNat && c.toNat < 0x7f

/-- A text in quotes. -/
def quoted (cs : List Char) : List Char := quotedBy isPrintable cs

/-- The character of each byte, by its number. -/
def ofLatin1 (bs : List UInt8) : List Char := bs.map fun b => Char.ofNat b.toNat

/-- Bytes in quotes. -/
def quotedBytes (bs : List UInt8) : List Char :=
  'b' :: quotedBy isPrintableAscii (ofLatin1 bs)

/-- Bytes in quotes, marked as a buffer. -/
def quotedBuffer (bs : List UInt8) : List Char :=
  "bytearray(".toList ++ quotedBytes bs ++ [')']

@[simp] theorem length_hexText (width n : Nat) : (hexText width n).length = width := by
  induction width generalizing n with
  | zero => rfl
  | succ w ih => simp [hexText, ih]

@[simp] theorem quoted_nil : quoted [] = [singleQuote, singleQuote] := rfl

end Text
end RouteProbe
