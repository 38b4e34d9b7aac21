/-!
# UTF-8

Encoding is by character.  Decoding is a machine over bytes, so that a text may
arrive in pieces: what it holds between two bytes is a sequence begun and not
yet finished.  A sequence that breaks off yields one failure for all of its
bytes, and the byte that broke it is read again as a first byte.
-/

namespace RouteProbe
namespace Text

/-- The UTF-8 bytes of a character. -/
def utf8Char (c : Char) : List UInt8 :=
  let n := c.toNat
  if n < 0x80 then [UInt8.ofNat n]
  else if n < 0x800 then [UInt8.ofNat (0xc0 + n / 0x40), UInt8.ofNat (0x80 + n % 0x40)]
  else if n < 0x10000 then
    [UInt8.ofNat (0xe0 + n / 0x1000), UInt8.ofNat (0x80 + n / 0x40 % 0x40),
      UInt8.ofNat (0x80 + n % 0x40)]
  else
    [UInt8.ofNat (0xf0 + n / 0x40000), UInt8.ofNat (0x80 + n / 0x1000 % 0x40),
      UInt8.ofNat (0x80 + n / 0x40 % 0x40), UInt8.ofNat (0x80 + n % 0x40)]

/-- The UTF-8 bytes of a text. -/
def utf8 (cs : List Char) : List UInt8 := cs.flatMap utf8Char

/-- A sequence begun: how many bytes are owed, the bounds of the next of them,
and the bits read so far. -/
structure Utf8Sequence where
  owed : Nat
  low : Nat
  high : Nat
  bits : Nat
  deriving Repr, DecidableEq

/-- What a first byte begins: a whole character, a sequence, or nothing. -/
inductive Utf8Lead where
  | whole (c : Char)
  | sequence (s : Utf8Sequence)
  | broken
  deriving Repr, DecidableEq

/-- Reads a first byte.  The bounds on the second byte keep out overlong forms,
surrogates and numbers past the last code point. -/
def utf8Lead (b : UInt8) : Utf8Lead :=
  let n := b.toNat
  if n < 0x80 then .whole (Char.ofNat n)
  else if n < 0xc2 then .broken
  else if n < 0xe0 then .sequence ⟨1, 0x80, 0xbf, n - 0xc0⟩
  else if n < 0xf0 then
    .sequence ⟨2, if n = 0xe0 then 0xa0 else 0x80, if n = 0xed then 0x9f else 0xbf, n - 0xe0⟩
  else if n < 0xf5 then
    .sequence ⟨3, if n = 0xf0 then 0x90 else 0x80, if n = 0xf4 then 0x8f else 0xbf, n - 0xf0⟩
  else .broken

/-- The decoder between two bytes: what it has read, last first, where `none` is
a failure, and the sequence begun. -/
structure Utf8Decoder where
  read : List (Option Char)
  pending : Option Utf8Sequence
  deriving Repr, DecidableEq

namespace Utf8Decoder

/-- Before the first byte. -/
def start : Utf8Decoder := ⟨[], none⟩

/-- Takes a first byte. -/
def lead (read : List (Option Char)) (b : UInt8) : Utf8Decoder :=
  match utf8Lead b with
  | .whole c => ⟨some c :: read, none⟩
  | .sequence s => ⟨read, some s⟩
  | .broken => ⟨none :: read, none⟩

/-- Takes one byte. -/
def step (d : Utf8Decoder) (b : UInt8) : Utf8Decoder :=
  match d.pending with
  | none => lead d.read b
  | some s =>
      if s.low ≤ b.toNat ∧ b.toNat ≤ s.high then
        let bits := s.bits * 0x40 + (b.toNat - 0x80)
        if s.owed ≤ 1 then ⟨some (Char.ofNat bits) :: d.read, none⟩
        else ⟨d.read, some ⟨s.owed - 1, 0x80, 0xbf, bits⟩⟩
      else lead (none :: d.read) b

/-- Ends the text: a sequence begun and not finished is a failure. -/
def finish (d : Utf8Decoder) : List (Option Char) :=
  match d.pending with
  | none => d.read.reverse
  | some _ => (none :: d.read).reverse

end Utf8Decoder

/-- Decodes bytes, with a failure wherever they are not UTF-8. -/
def utf8Scan (bs : List UInt8) : List (Option Char) :=
  (bs.foldl Utf8Decoder.step Utf8Decoder.start).finish

/-- Decodes bytes; each failure becomes a replacement character. -/
def ofUtf8Replacing (bs : List UInt8) : List Char :=
  (utf8Scan bs).map fun c => c.getD '\ufffd'

/-- Decodes bytes that are UTF-8 throughout. -/
def ofUtf8? (bs : List UInt8) : Option (List Char) :=
  let scan := utf8Scan bs
  if scan.all Option.isSome then some (scan.filterMap id) else none

/-- The ASCII characters among the bytes. -/
def asciiOf (bs : List UInt8) : List Char :=
  (bs.filter fun b => b.toNat < 0x80).map fun b => Char.ofNat b.toNat

@[simp] theorem utf8_nil : utf8 [] = [] := rfl

@[simp] theorem utf8_append (a b : List Char) : utf8 (a ++ b) = utf8 a ++ utf8 b := by
  simp [utf8]

end Text
end RouteProbe
