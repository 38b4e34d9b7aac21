/-!
# The protocol of a connection

Two sides take part in an exchange: the client sends a request, and the server one or more heads
and a body.  `Protocol` says where each of them stands.  What the server sends makes its side move,
if it is its turn to send this; the client moves when it hands out its request, whether or not the
bytes can then be written, so a write that fails leaves it in the middle of the request.

A connection can serve another exchange when both sides are done.  A reply that says that it is the
last, and a side that has failed, keep it from being used again.
-/

namespace RouteProbe
namespace Http

/-- Where one side of an exchange stands. -/
inductive Half where
  | idle
  | sendResponse
  | sendBody
  | done
  | mustClose
  | error
  deriving Repr, DecidableEq

/-- The name of a place in an exchange. -/
def Half.name : Half → String
  | .idle => "IDLE"
  | .sendResponse => "SEND_RESPONSE"
  | .sendBody => "SEND_BODY"
  | .done => "DONE"
  | .mustClose => "MUST_CLOSE"
  | .error => "ERROR"

/-- What comes from a server: the head of an informational reply, that of a reply, which says
whether the connection is kept behind it, a piece of the body, and the end of the reply. -/
inductive Event where
  | informational
  | response (keepsAlive : Bool)
  | data
  | endOfMessage
  deriving Repr, DecidableEq

namespace Event

/-- The name of an event. -/
def name : Event → String
  | .informational => "InformationalResponse"
  | .response _ => "Response"
  | .data => "Data"
  | .endOfMessage => "EndOfMessage"

/-- The connection can be kept, as far as an event goes. -/
def keepsAlive : Event → Bool
  | .response keepsAlive => keepsAlive
  | _ => true

end Event

/-- Where an event leaves the server, if it is the server's turn to send it. -/
def Half.after? : Half → Event → Option Half
  | .sendResponse, .informational => some .sendResponse
  | .sendResponse, .response _ => some .sendBody
  | .sendBody, .data => some .sendBody
  | .sendBody, .endOfMessage => some .done
  | _, _ => none

/-- Where the two sides of an exchange stand, and whether the connection can be kept behind it. -/
structure Protocol where
  client : Half
  server : Half
  keepsAlive : Bool
  deriving Repr, DecidableEq

namespace Protocol

/-- Before the first exchange. -/
def start : Protocol := ⟨.idle, .idle, true⟩

/-- A side that is done must close if the connection is not kept. -/
def last (p : Protocol) (h : Half) : Half := if h = .done && !p.keepsAlive then .mustClose else h

/-- The moves that follow from where both sides stand. -/
def settle (p : Protocol) : Protocol :=
  match p.last p.client, p.last p.server with
  | .done, .error => { p with client := .mustClose, server := .error }
  | client, server => { p with client, server }

/-- The client begins its request, and the server is to answer it. -/
def request (p : Protocol) : Protocol := { p with client := .sendBody, server := .sendResponse }

/-- The client has handed out all of its request. -/
def endRequest (p : Protocol) : Protocol := { p with client := .done }.settle

/-- Something comes from the server, if it is the server's turn to send it. -/
def receive? (p : Protocol) (e : Event) : Option Protocol :=
  (p.server.after? e).map fun server =>
    { p with server, keepsAlive := p.keepsAlive && e.keepsAlive }.settle

/-- What comes from the server is no reply. -/
def fail (p : Protocol) : Protocol := { p with server := .error }.settle

/-- The connection can serve another exchange. -/
def isReusable (p : Protocol) : Bool := p.client = .done && p.server = .done

/-- Before the next exchange. -/
def nextCycle (p : Protocol) : Protocol := { p with client := .idle, server := .idle }

end Protocol
end Http
end RouteProbe
