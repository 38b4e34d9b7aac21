import RouteProbe.Http.Field
import RouteProbe.Text.Utf8

/-!
# Heads of replies

A reply begins with a head: a status line and fields.  Heads of informational
replies may come before it and are passed over.
-/

namespace RouteProbe
namespace Http

open Text

/-- The head of a reply. -/
structure Head where
  version : List UInt8
  status : Nat
  reason : List UInt8
  fields : List Field
  framing : Framing
  deriving Repr, DecidableEq

namespace Head

/-- A byte that is an ASCII digit. -/
def isDigitByte (b : UInt8) : Bool := byte '0' ≤ b && b ≤ byte '9'

/-- A byte that a reason is made of. -/
def isReasonByte (b : UInt8) : Bool := isVisible b || isPadding b

/-- Reads a status line: the version, the status and the reason. -/
def ofStatusLine (line : List UInt8) : Except ProtocolError (List UInt8 × Nat × List UInt8) :=
  match line with
  | 72 :: 84 :: 84 :: 80 :: 47 :: major :: 46 :: minor :: 32 :: x :: y :: z :: rest =>
      let status := decimalNumber (ofLatin1 [x, y, z])
      if [major, minor, x, y, z].all isDigitByte then
        match rest with
        | [] => .ok ([major, 46, minor], status, [])
        | b :: reason =>
            if b = 32 && reason.all isReasonByte then .ok ([major, 46, minor], status, reason)
            else .error (.illegalStatusLine line)
      else .error (.illegalStatusLine line)
  | _ => .error (.illegalStatusLine line)

/-- The head is informational, so another one follows. -/
def isInformational (h : Head) : Bool := h.status < 200

/-- The first version in which connections are kept. -/
def keepingVersion : List UInt8 := "1.1".toList.map byte

/-- The connection can be kept behind the reply: its version keeps connections, and no value of the
head says that it is closed. -/
def keepsAlive (h : Head) : Bool :=
  let options := (valuesOf "connection" h.fields).flatMap fun value =>
    (value.splitOn (byte ',')).map fun option =>
      dropEndWhile isPadding ((option.map Field.lowerByte).dropWhile isPadding)
  !options.contains ("close".toList.map byte) && decide (keepingVersion ≤ h.version)

/-- A head as an event of an exchange. -/
def event (h : Head) : Event :=
  if h.isInformational then .informational else .response h.keepsAlive

/-- Reads the lines of a head. -/
def ofLines (lines : List (List UInt8)) : Except ProtocolError Head :=
  match lines with
  | [] => .error .noStatusLine
  | line :: lines => do
      let (version, status, reason) ← ofStatusLine line
      let fields ← Field.ofLines lines
      let framing ← Framing.ofFields fields
      if status < 100 then throw (.statusTooLow status)
      if status = 101 then throw .unexpectedSwitch
      return ⟨version, status, reason, fields, framing⟩

/-- The version as it is shown. -/
def versionText (h : Head) : List Char := "HTTP/".toList ++ ofLatin1 h.version

/-- The reason as it is shown: its ASCII characters. -/
def reasonText (h : Head) : List Char := asciiOf h.reason

end Head

/-- What taking bytes for a head comes to: a head with what is behind it, or what
has come of one that is not at its end, last byte first. -/
inductive HeadResult where
  | final (head : Head) (rest : List UInt8)
  | partly (seen : List UInt8)
  | failed (e : ProtocolError)
  deriving Repr, DecidableEq

theorem takeBlock_shorter {seen kept bs rest : List UInt8}
    (h : takeBlock seen bs = (kept, some rest)) : rest.length < bs.length := by
  induction bs generalizing seen with
  | nil => simp at h
  | cons b bs ih =>
      simp only [takeBlock] at h
      split at h
      · simp only [Prod.mk.injEq, Option.some.injEq] at h
        simp [h.2]
      · exact Nat.lt_succ_of_lt (ih h)

/-- Takes bytes for a head, past informational ones.  Each head is an event of the exchange. -/
def Protocol.takeHead (p : Protocol) (seen bs : List UInt8) : HeadResult × Protocol :=
  match _h : takeBlock seen bs with
  | (kept, none) => (.partly kept, p)
  | (kept, some rest) =>
      match Head.ofLines (blockLines kept) with
      | .error e => (.failed e, p.fail)
      | .ok head =>
          match p.receive? head.event with
          | none => (.failed (.outOfTurn head.event p.server), p.fail)
          | some p => if head.isInformational then p.takeHead [] rest else (.final head rest, p)
termination_by bs.length
decreasing_by exact takeBlock_shorter _h

/-- The most bytes that may wait for a part to be whole. -/
def maxWaiting : Nat := 102400

/-- Checks a part of a head before more is read: it must not be too long, and a
head does not begin with a control character or a space. -/
def checkPart (seen : List UInt8) : Except ProtocolError Unit :=
  if (seen.getLast?.map fun b => decide (b < 0x21)).getD false then .error .startsWithControl
  else if maxWaiting < seen.length then .error .tooLong
  else .ok ()

end Http
end RouteProbe
