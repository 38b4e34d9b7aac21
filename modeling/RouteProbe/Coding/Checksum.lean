/-!
# Checksums

Two sums over the bytes of a content: the remainder of its polynomial, and the
pair of its running sums.  Both go byte by byte from a start, so the sum of a
content that comes in pieces goes on from piece to piece.
-/

namespace RouteProbe
namespace Coding

/-- One bit of division by the polynomial. -/
def crcShift (c : UInt32) : UInt32 :=
  if c &&& 1 = 1 then (c >>> 1) ^^^ 0xedb88320 else c >>> 1

/-- Takes one byte into the remainder. -/
def crcStep (c : UInt32) (b : UInt8) : UInt32 :=
  let c := c ^^^ b.toUInt32
  crcShift (crcShift (crcShift (crcShift (crcShift (crcShift (crcShift (crcShift c)))))))

/-- The remainder of a content. -/
def crc32 (bs : List UInt8) : UInt32 := bs.foldl crcStep 0xffffffff ^^^ 0xffffffff

/-- The modulus of the running sums. -/
def adlerModulus : Nat := 65521

/-- Takes one byte into the running sums. -/
def adlerStep (s : Nat × Nat) (b : UInt8) : Nat × Nat :=
  let low := (s.1 + b.toNat) % adlerModulus
  (low, (s.2 + low) % adlerModulus)

/-- The running sums of a content, as one number. -/
def adler32 (bs : List UInt8) : Nat :=
  let s := bs.foldl adlerStep (1, 0)
  s.2 * 65536 + s.1

@[simp] theorem crc32_nil : crc32 [] = 0 := rfl

@[simp] theorem adler32_nil : adler32 [] = 1 := rfl

end Coding
end RouteProbe
