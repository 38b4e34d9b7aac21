import RouteProbe.Http.Head

/-!
# Bodies of replies

What is still owed of a body, as bytes come.  Bytes are taken as far as they go,
and what was taken is the same wherever they were cut; only the pieces differ in
which the content is handed on.
-/

namespace RouteProbe
namespace Http

open Text

/-- Where reading a body stands. -/
inductive Body where
  | counted (length remaining : Nat)
  | chunkSize (seen : List UInt8)
  | chunk (remaining : Nat)
  | chunkEnd (owed : List UInt8)
  | trailer (seen : List UInt8)
  | untilEnd
  | complete
  | failed (e : ProtocolError)
  deriving Repr, DecidableEq

namespace Body

/-- A body of which nothing has come. -/
def ofFraming : Framing → Body
  | .counted 0 => .complete
  | .counted n => .counted n n
  | .chunked => .chunkSize []
  | .untilEnd => .untilEnd

/-- The most digits of the size of a chunk. -/
def maxSizeDigits : Nat := 20

/-- The value of a byte that is a hexadecimal digit. -/
def hexByte? (b : UInt8) : Option Nat := hexValue? (Char.ofNat b.toNat)

/-- The size that a line before a chunk names: digits, perhaps an extension behind a
semicolon, and perhaps blanks. -/
def sizeOfLine? (line : List UInt8) : Option Nat :=
  let digits := line.takeWhile fun b => (hexByte? b).isSome
  let rest := dropEndWhile isPadding (line.dropWhile fun b => (hexByte? b).isSome)
  if digits.isEmpty || maxSizeDigits < digits.length then none
  else if rest.isEmpty || (rest.head? = some (byte ';') && !rest.contains lf) then
    some (hexNumber (ofLatin1 digits))
  else none

/-- Reads the line before a chunk, which has come, last byte first. -/
def ofSizeLine (seen : List UInt8) : Body :=
  match sizeOfLine? (seen.drop 2).reverse with
  | none => .failed (.illegalChunkSize seen.reverse)
  | some 0 => .trailer []
  | some n => .chunk n

/-- Reads the lines behind the last chunk, which have come, last byte first. -/
def ofTrailer (seen : List UInt8) : Body :=
  match Field.ofLines (blockLines seen) with
  | .error e => .failed e
  | .ok fields =>
      match Framing.ofFields fields with
      | .error e => .failed e
      | .ok _ => .complete

/-- Takes bytes of a line before a chunk, up to its end.  Answers with what has
come, and, if the line is at its end, with what is behind it. -/
def takeSizeLine (seen : List UInt8) : List UInt8 → List UInt8 × Option (List UInt8)
  | [] => (seen, none)
  | b :: bs =>
      if b = lf ∧ seen.head? = some cr then (b :: seen, some bs) else takeSizeLine (b :: seen) bs

/-- Takes bytes that have come.  Answers with the content among them, in pieces,
and where that leaves the body. -/
def feed : Nat → Body → List UInt8 → List (List UInt8) × Body
  | _, body, [] => ([], body)
  | 0, body, _ :: _ => ([], body)
  | fuel + 1, body, b :: bs =>
      let came := b :: bs
      match body with
      | .counted length remaining =>
          if came.length < remaining then ([came], .counted length (remaining - came.length))
          else ([came.take remaining], .complete)
      | .chunkSize seen =>
          match takeSizeLine seen came with
          | (seen, none) => ([], .chunkSize seen)
          | (seen, some rest) => feed fuel (ofSizeLine seen) rest
      | .chunk remaining =>
          if came.length < remaining then ([came], .chunk (remaining - came.length))
          else
            let (pieces, body) := feed fuel (.chunkEnd [cr, lf]) (came.drop remaining)
            (came.take remaining :: pieces, body)
      | .chunkEnd owed =>
          let found := came.take owed.length
          if found ≠ owed.take found.length then ([], .failed (.malformedChunkEnd found owed))
          else if found.length < owed.length then ([], .chunkEnd (owed.drop found.length))
          else feed fuel (.chunkSize []) (came.drop owed.length)
      | .trailer seen =>
          match takeBlock seen came with
          | (seen, none) => ([], .trailer seen)
          | (seen, some _) => ([], ofTrailer seen)
      | .untilEnd => ([came], .untilEnd)
      | .complete => ([], .complete)
      | .failed e => ([], .failed e)

/-- Takes all bytes that have come; every step takes at least one. -/
def take (body : Body) (bs : List UInt8) : List (List UInt8) × Body := feed bs.length body bs

/-- Checks a body before more is read: a part must not wait too long to be whole. -/
def checkWaiting : Body → Except ProtocolError Unit
  | .chunkSize seen | .trailer seen =>
      if maxWaiting < seen.length then .error .tooLong else .ok ()
  | _ => .ok ()

/-- The stream is at its end: only a body that this marks off is whole. -/
def close : Body → Except ProtocolError Unit
  | .counted length remaining => .error (.bodyCutShort (length - remaining) length)
  | .chunkSize [] | .chunk _ | .chunkEnd _ | .trailer [] => .error .chunksCutShort
  | .chunkSize (_ :: _) | .trailer (_ :: _) => .error .cutShort
  | .untilEnd | .complete => .ok ()
  | .failed e => .error e

@[simp] theorem take_nil (body : Body) : body.take [] = ([], body) := rfl

end Body
end Http
end RouteProbe
