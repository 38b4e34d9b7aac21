import RouteProbe.Http.Error
import RouteProbe.Text.Blank
import RouteProbe.Text.Digit

/-!
# Blocks of fields

A head is a block of lines that an empty line ends, and so is what follows the
last chunk of a body.  A block may come in pieces, so what has come of it is kept,
last byte first, and each new byte is looked at once.  Lines that begin with a
blank continue the one before.
-/

namespace RouteProbe
namespace Http

open Text

/-- The byte of an ASCII character. -/
def byte (c : Char) : UInt8 := UInt8.ofNat c.toNat

/-- The line feed. -/
def lf : UInt8 := 10

/-- The carriage return. -/
def cr : UInt8 := 13

/-- A space or a tab. -/
def isPadding (b : UInt8) : Bool := b = 32 || b = 9

/-- A byte that text between blanks is made of: neither zero nor white space. -/
def isVisible (b : UInt8) : Bool := b ≠ 0 && b ≠ 32 && !(9 ≤ b && b ≤ 13)

/-- What has come, last byte first, ends a block: its last line is empty. -/
def endsBlock : List UInt8 → Bool
  | [10] => true
  | [10, 13] => true
  | 10 :: 10 :: _ => true
  | 10 :: 13 :: 10 :: _ => true
  | _ => false

/-- Takes bytes up to the end of the block.  Answers with what has come, and, if
the block is at its end, with what is behind it. -/
def takeBlock (seen : List UInt8) : List UInt8 → List UInt8 × Option (List UInt8)
  | [] => (seen, none)
  | b :: bs => if endsBlock (b :: seen) then (b :: seen, some bs) else takeBlock (b :: seen) bs

/-- A line without the carriage return at its end. -/
def withoutReturn (line : List UInt8) : List UInt8 :=
  if line.getLast? = some cr then line.dropLast else line

/-- The lines of a block that has come, last byte first, without the empty one at
its end. -/
def blockLines (seen : List UInt8) : List (List UInt8) :=
  ((seen.reverse.splitOn lf).map withoutReturn).dropLast.dropLast

/-- Puts lines that continue to those that they continue; `current` is the line
before them. -/
def unfoldAfter (current : List UInt8) : List (List UInt8) → List (List UInt8)
  | [] => [current]
  | line :: lines =>
      if (line.head?.map isPadding).getD false then
        unfoldAfter (current ++ 32 :: line.dropWhile isPadding) lines
      else current :: unfoldAfter line lines

/-- Puts lines that continue to those that they continue. -/
def unfoldLines : List (List UInt8) → Except ProtocolError (List (List UInt8))
  | [] => .ok []
  | line :: lines =>
      if (line.head?.map isPadding).getD false then .error .startsWithContinuation
      else .ok (unfoldAfter line lines)

/-- A named value of a head. -/
structure Field where
  name : List UInt8
  value : List UInt8
  deriving Repr, DecidableEq

namespace Field

/-- A byte that names are made of. -/
def isNameByte (b : UInt8) : Bool :=
  (byte '0' ≤ b && b ≤ byte '9') || (byte 'a' ≤ b && b ≤ byte 'z') ||
    (byte 'A' ≤ b && b ≤ byte 'Z') || ("-!#$%&'*+.^_|~\x60".toList.map byte).contains b

/-- Reads a line: a name, a colon, and a value between blanks. -/
def ofLine (line : List UInt8) : Except ProtocolError Field :=
  let name := line.takeWhile isNameByte
  match line.dropWhile isNameByte with
  | 58 :: rest =>
      let value := dropEndWhile isPadding (rest.dropWhile isPadding)
      if !name.isEmpty && value.all (fun b => isVisible b || isPadding b) then .ok ⟨name, value⟩
      else .error (.illegalFieldLine line)
  | _ => .error (.illegalFieldLine line)

/-- Reads the lines of a block. -/
def ofLines (lines : List (List UInt8)) : Except ProtocolError (List Field) := do
  (← unfoldLines lines).mapM ofLine

/-- A byte with ASCII letters in lower case. -/
def lowerByte (b : UInt8) : UInt8 := if byte 'A' ≤ b && b ≤ byte 'Z' then b + 32 else b

/-- The field has a name; case does not count. -/
def isNamed (name : String) (f : Field) : Bool := f.name.map lowerByte == name.toList.map byte

end Field

/-- The values under a name, in order. -/
def valuesOf (name : String) (fields : List Field) : List (List UInt8) :=
  (fields.filter (Field.isNamed name)).map Field.value

/-- How a body is marked off: by its length, by chunks, or by the end of the stream. -/
inductive Framing where
  | counted (length : Nat)
  | chunked
  | untilEnd
  deriving Repr, DecidableEq

namespace Framing

/-- The most digits of a length. -/
def maxDigits : Nat := 20

/-- A length as it is written; a list of equal ones is one. -/
def lengthText (value : List UInt8) : Except ProtocolError (List UInt8) :=
  let texts := (value.splitOn (byte ',')).map fun t =>
    dropEndWhile isPadding (t.dropWhile isPadding)
  match texts.eraseDups with
  | [t] =>
      if !t.isEmpty && t.all (fun b => byte '0' ≤ b && b ≤ byte '9') &&
          t.length ≤ maxDigits then
        .ok t
      else .error .badLength
  | _ => .error .conflictingLengths

/-- What the fields so far say: the length as it is written, and whether there are
chunks. -/
structure Announced where
  length : Option (List UInt8)
  chunks : Bool
  deriving Repr, DecidableEq

/-- Takes one field into account. -/
def Announced.add (a : Announced) (f : Field) : Except ProtocolError Announced :=
  if f.isNamed "content-length" then
    match lengthText f.value with
    | .error e => .error e
    | .ok t =>
        if a.length.getD t = t then .ok { a with length := some t } else .error .conflictingLengths
  else if f.isNamed "transfer-encoding" then
    if a.chunks then .error .severalTransferCodings
    else if f.value.map Field.lowerByte = "chunked".toList.map byte then
      .ok { a with chunks := true }
    else .error .unknownTransferCoding
  else .ok a

/-- What the fields say about the body; chunks go before a length. -/
def ofFields (fields : List Field) : Except ProtocolError Framing :=
  match fields.foldlM Announced.add ⟨none, false⟩ with
  | .error e => .error e
  | .ok ⟨_, true⟩ => .ok .chunked
  | .ok ⟨some t, false⟩ => .ok (.counted (decimalNumber (ofLatin1 t)))
  | .ok ⟨none, false⟩ => .ok .untilEnd

end Framing

@[simp] theorem takeBlock_nil (seen : List UInt8) : takeBlock seen [] = (seen, none) := rfl

/-- Bytes that do not end a block are all kept. -/
theorem takeBlock_append {seen kept a : List UInt8} (b : List UInt8)
    (h : takeBlock seen a = (kept, none)) : takeBlock seen (a ++ b) = takeBlock kept b := by
  induction a generalizing seen with
  | nil =>
      simp only [takeBlock_nil, Prod.mk.injEq, and_true] at h
      simp [h]
  | cons x a ih =>
      simp only [takeBlock, List.cons_append] at h ⊢
      split at h
      · simp at h
      · rename_i hx
        rw [if_neg hx]
        exact ih h

end Http
end RouteProbe
