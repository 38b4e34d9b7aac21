import RouteProbe.Http.Protocol
import RouteProbe.Text.Quoted

/-!
# Malformed replies

Why the bytes that come are no reply, or not all of one.
-/

namespace RouteProbe
namespace Http

open Text

/-- Why a reply cannot be read. -/
inductive ProtocolError where
  | disconnected
  | cutShort
  | tooLong
  | startsWithControl
  | noStatusLine
  | illegalStatusLine (line : List UInt8)
  | startsWithContinuation
  | illegalFieldLine (line : List UInt8)
  | conflictingLengths
  | badLength
  | severalTransferCodings
  | unknownTransferCoding
  | statusTooLow (code : Nat)
  | unexpectedSwitch
  | illegalChunkSize (line : List UInt8)
  | malformedChunkEnd (found owed : List UInt8)
  | bodyCutShort (received expected : Nat)
  | chunksCutShort
  | outOfTurn (event : Event) (half : Half)
  deriving Repr, DecidableEq

/-- The message of an error. -/
def ProtocolError.message : ProtocolError → String
  | .disconnected => "Server disconnected without sending a response."
  | .cutShort => "peer unexpectedly closed connection"
  | .tooLong => "Receive buffer too long"
  | .startsWithControl => "illegal request line"
  | .noStatusLine => "no response line received"
  | .illegalStatusLine l => "illegal status line: " ++ String.ofList (quotedBuffer l)
  | .startsWithContinuation => "continuation line at start of headers"
  | .illegalFieldLine l => "illegal header line: " ++ String.ofList (quotedBuffer l)
  | .conflictingLengths => "conflicting Content-Length headers"
  | .badLength => "bad Content-Length"
  | .severalTransferCodings => "multiple Transfer-Encoding headers"
  | .unknownTransferCoding => "Only Transfer-Encoding: chunked is supported"
  | .statusTooLow n =>
      "InformationalResponse status_code should be in range [100, 200), not " ++ toString n
  | .unexpectedSwitch => "Received server _SWITCH_UPGRADE event without a pending proposal"
  | .illegalChunkSize l => "illegal chunk header: " ++ String.ofList (quotedBuffer l)
  | .malformedChunkEnd found owed =>
      "malformed chunk footer: " ++ String.ofList (quotedBuffer found) ++ " (expected " ++
        String.ofList (quotedBytes owed) ++ ")"
  | .bodyCutShort received expected =>
      "peer closed connection without sending complete message body (received " ++
        toString received ++ " bytes, expected " ++ toString expected ++ ")"
  | .chunksCutShort =>
      "peer closed connection without sending complete message body (incomplete chunked read)"
  | .outOfTurn event half =>
      "can't handle event type " ++ event.name ++ " when role=SERVER and state=" ++ half.name

end Http
end RouteProbe
