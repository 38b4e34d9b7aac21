import RouteProbe.Coding.Chain
import RouteProbe.Http.Body
import RouteProbe.Http.Connection
import RouteProbe.Http.Request

/-!
# Exchanges

A request goes out on a connection of its own, and the reply is read only as far as
it is needed: the head first, and the body only if it is wanted.  A request that
could not be written does not keep the reply from being read, because a server may
answer before it has read everything.  Each way out releases the connection or leaves
it to the one who asked.
-/

namespace RouteProbe
namespace Http

open Text

/-- How an exchange can fail. -/
inductive TransportError where
  | connecting (f : NetworkFailure)
  | writing (f : NetworkFailure)
  | reading (f : NetworkFailure)
  | protocol (e : ProtocolError)
  | location (e : UrlError)
  | noScheme
  deriving Repr, DecidableEq

namespace TransportError

/-- The name of an error. -/
def name : TransportError → String
  | .connecting .timeout => "ConnectTimeout"
  | .connecting _ => "ConnectError"
  | .writing .timeout => "WriteTimeout"
  | .writing _ => "WriteError"
  | .reading .timeout => "ReadTimeout"
  | .reading _ => "ReadError"
  | .protocol _ | .location _ => "RemoteProtocolError"
  | .noScheme => "UnsupportedProtocol"

/-- The message of an error. -/
def message : TransportError → String
  | .connecting f | .writing f | .reading f => f.message
  | .protocol e => e.message
  | .location e => "Invalid URL in location header: " ++ e.message ++ "."
  | .noScheme => "Request URL is missing an 'http://' or 'https://' protocol."

/-- An error as it is shown: its name, and its message in quotes. -/
def shown (e : TransportError) : List Char :=
  e.name.toList ++ '(' :: quoted e.message.toList ++ [')']

end TransportError

/-- How reading a body can fail. -/
inductive BodyError where
  | transport (e : TransportError)
  | decoding (e : Coding.ContainerError)
  deriving Repr, DecidableEq

namespace Connection

/-- Sends a request.  The client hands it out before it is written, and is in the middle of it if it
cannot be written.  Writing may only fail by running out of time; any other failure is passed over,
because a server may have answered before. -/
def sendRequest (c : Connection) (failure : Option NetworkFailure) (request : Request) :
    Except TransportError Unit × Connection :=
  match { c with protocol := c.protocol.request }.write failure request.bytes with
  | (.ok (), c) => (.ok (), { c with protocol := c.protocol.endRequest })
  | (.error .timeout, c) => (.error (.writing .timeout), c)
  | (.error _, c) => (.ok (), c)

/-- Reads until a head is whole; `seen` is what has come of it, last byte first, and `bs` what came
with the last read.  Answers with the head and what came behind it. -/
def awaitHead (c : Connection) (seen bs : List UInt8) :
    Except TransportError (Head × List UInt8) × Connection :=
  match c.protocol.takeHead seen bs with
  | (.failed e, p) => (.error (.protocol e), { c with protocol := p })
  | (.final head rest, p) => (.ok (head, rest), { c with protocol := p })
  | (.partly seen, p) =>
      match checkPart seen with
      | .error e => (.error (.protocol e), { c with protocol := p.fail })
      | .ok () =>
          match _h : ({ c with protocol := p } : Connection).read with
          | (.error f, c) => (.error (.reading f), c)
          | (.ok [], c) => (.error (.protocol .disconnected), c)
          | (.ok (b :: bs), c) => c.awaitHead seen (b :: bs)
termination_by Network.size c.left
decreasing_by
  have hlt := size_left_lt _h
  exact hlt

/-- Sends a request and waits for the head of the reply.  If there is none, the connection is
released. -/
def handle (c : Connection) (failure : Option NetworkFailure) (request : Request) :
    Except TransportError (Head × List UInt8) × Connection :=
  match c.sendRequest failure request with
  | (.error e, c) => (.error e, c.release)
  | (.ok (), c) =>
      match c.awaitHead [] [] with
      | (.error e, c) => (.error e, c.release)
      | (.ok found, c) => (.ok found, c)

end Connection

/-- Takes pieces of a body in order, and decodes them; `out` are those decoded before, last
first. -/
def Protocol.takePieces (p : Protocol) (chain : Coding.Chain) (out : List (List UInt8)) :
    List (List UInt8) → Except BodyError (Coding.Chain × List (List UInt8)) × Protocol
  | [] => (.ok (chain, out), p)
  | piece :: pieces =>
      match p.receive? .data with
      | none => (.error (.transport (.protocol (.outOfTurn .data p.server))), p.fail)
      | some p =>
          match chain.feed piece with
          | .error e => (.error (.decoding e), p)
          | .ok (chain, decoded) => p.takePieces chain (decoded :: out) pieces

namespace Connection

/-- A body is at its end: `out` are its pieces, last first. -/
def endBody (c : Connection) (out : List (List UInt8)) :
    Except BodyError (List UInt8) × Connection :=
  match c.protocol.receive? .endOfMessage with
  | none =>
      (.error (.transport (.protocol (.outOfTurn .endOfMessage c.protocol.server))),
        { c with protocol := c.protocol.fail })
  | some p => (.ok out.reverse.flatten, { c with protocol := p })

/-- What comes of a body is no body. -/
def failBody (c : Connection) (e : ProtocolError) : Except BodyError (List UInt8) × Connection :=
  (.error (.transport (.protocol e)), { c with protocol := c.protocol.fail })

/-- Reads until a body is whole, and decodes it on the way; `bs` came with the last
read, and `out` is what was decoded before, last piece first. -/
def awaitBody (c : Connection) (body : Body) (chain : Coding.Chain) (out : List (List UInt8))
    (bs : List UInt8) : Except BodyError (List UInt8) × Connection :=
  let taken := body.take bs
  match c.protocol.takePieces chain out taken.1 with
  | (.error e, p) => (.error e, { c with protocol := p })
  | (.ok (chain, out), p) =>
      let c : Connection := { c with protocol := p }
      match taken.2 with
      | .complete => c.endBody out
      | .failed e => c.failBody e
      | body =>
          match body.checkWaiting with
          | .error e => c.failBody e
          | .ok () =>
              match _h : c.read with
              | (.error f, c) => (.error (.transport (.reading f)), c)
              | (.ok [], c) =>
                  match body.close with
                  | .error e => c.failBody e
                  | .ok () => c.endBody out
              | (.ok (b :: bs), c) => c.awaitBody body chain out (b :: bs)
termination_by Network.size c.left
decreasing_by
  have hlt := size_left_lt _h
  exact hlt

end Connection

/-- The text of a value of a head.  If all values are ASCII or UTF-8, so is the
text; if not, each byte is a character. -/
def Head.valueText (h : Head) (value : List UInt8) : List Char :=
  if h.fields.all fun f => (ofUtf8? f.value).isSome then ofUtf8Replacing value else ofLatin1 value

/-- The codings that a head names, in order.  Names that are not known are passed
over. -/
def Head.codings (h : Head) : List Coding.Scheme :=
  (valuesOf "content-encoding" h.fields).flatMap fun value =>
    ((h.valueText value).splitOn ',').filterMap fun name =>
      Coding.Scheme.ofName? (lower (trim name))

/-- Where a head sends the reader on: the values of its location, apart by commas. -/
def Head.locationText? (h : Head) : Option (List Char) :=
  match valuesOf "location" h.fields with
  | [] => none
  | values => some ([',', ' '].intercalate (values.map h.valueText))

/-- Reads the body behind a head, and lets the connection go when there is no more to read: at the
end of the body, or when the exchange has failed.  A body that cannot be decoded is left where it
is. -/
def Connection.readBody (c : Connection) (head : Head) (rest : List UInt8) :
    Except BodyError (List UInt8) × Connection :=
  match c.awaitBody (.ofFraming head.framing) (.ofCodings head.codings) [] rest with
  | (.error (.decoding e), c) => (.error (.decoding e), c)
  | (result, c) => (result, c.letGo)

end Http
end RouteProbe
