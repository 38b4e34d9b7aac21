import RouteProbe.Text.Ranges
import RouteProbe.Text.Quoted
import RouteProbe.Text.Utf8

/-!
# Percent escapes

Each part of a URL has a set of characters that stand for themselves.  All others
are escaped: a percent sign and two hexadecimal digits for each byte of their
UTF-8 form.  The percent sign stands for itself everywhere, so an escape that is
already there stays, and escaping twice is escaping once.
-/

namespace RouteProbe
namespace Url

open Text

/-- A hexadecimal digit in upper case. -/
def upperHexDigit (n : Nat) : Char :=
  if n < 10 then Char.ofNat (48 + n) else Char.ofNat (55 + n)

/-- The escape of a byte. -/
def escapeByte (b : UInt8) : List Char :=
  ['%', upperHexDigit (b.toNat / 16), upperHexDigit (b.toNat % 16)]

/-- A character of a part in which the characters of `keep` stand for themselves. -/
def escapeChar (keep : Char → Bool) (c : Char) : List Char :=
  if keep c then [c] else (utf8Char c).flatMap escapeByte

/-- Escapes a text. -/
def escape (keep : Char → Bool) (cs : List Char) : List Char :=
  cs.flatMap (escapeChar keep)

/-- A printable ASCII character that is neither the space nor one of `others`. -/
def keepsAllBut (others : List Char) (c : Char) : Bool :=
  0x20 < c.toNat && c.toNat < 0x7f && !others.contains c

/-- What stands for itself in a fragment. -/
def keepsFragment : Char → Bool := keepsAllBut [doubleQuote, '<', '>', '\x60']

/-- What stands for itself in a query. -/
def keepsQuery : Char → Bool := keepsAllBut [doubleQuote, '#', '<', '>']

/-- What stands for itself in a path. -/
def keepsPath : Char → Bool :=
  keepsAllBut [doubleQuote, '#', '<', '>', '?', '\x60', '\x7b', '\x7d']

/-- What stands for itself in the user information. -/
def keepsUser : Char → Bool :=
  keepsAllBut
    [doubleQuote, '#', '<', '>', '?', '\x60', '\x7b', '\x7d', '/', ';', '=', '@', '[', backslash,
      ']', '^', '|']

/-- What stands for itself in the name of a host. -/
def keepsHost : Char → Bool := keepsAllBut ['#', '/', ':', '<', '>', '?', '@', '[', ']', '^']

/-- The bytes of an ASCII text with its escapes undone; a percent sign that no
two hexadecimal digits follow is itself. -/
def unescape : List Char → List UInt8
  | '%' :: a :: b :: cs =>
      match hexValue? a, hexValue? b with
      | some x, some y => UInt8.ofNat (x * 16 + y) :: unescape cs
      | _, _ => UInt8.ofNat '%'.toNat :: unescape (a :: b :: cs)
  | c :: cs => UInt8.ofNat c.toNat :: unescape cs
  | [] => []

/-- The text that an ASCII text with escapes stands for. -/
def unescapedText (cs : List Char) : List Char := ofUtf8Replacing (unescape cs)

@[simp] theorem escape_nil (keep : Char → Bool) : escape keep [] = [] := rfl

@[simp] theorem escape_append (keep : Char → Bool) (a b : List Char) :
    escape keep (a ++ b) = escape keep a ++ escape keep b := by
  simp [escape]

/-- A text of characters that stand for themselves is not changed. -/
theorem escape_eq_self {keep : Char → Bool} {cs : List Char} (h : ∀ c ∈ cs, keep c = true) :
    escape keep cs = cs := by
  induction cs with
  | nil => rfl
  | cons c cs ih =>
      have hc : keep c = true := h c (by simp)
      have hcs := ih fun x hx => h x (by simp [hx])
      simp only [escape, List.flatMap_cons] at hcs ⊢
      simp [hcs, escapeChar, hc]

end Url
end RouteProbe
