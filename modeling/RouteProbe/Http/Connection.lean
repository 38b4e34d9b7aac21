import RouteProbe.Http.Protocol
import RouteProbe.Network

/-!
# Connections

A connection keeps what is left to come on it, where its exchange stands, and what has been done on
it.  When it is released it is closed, unless both sides are done with the exchange: then it is kept
for another one.  A client that leaves closes the connection that it has kept.
-/

namespace RouteProbe
namespace Http

/-- Whether a connection is in use, is kept for later, or has been closed. -/
inductive Phase where
  | active
  | idle
  | closed
  deriving Repr, DecidableEq

/-- A connection.  `released` says that the reader of its reply has let it go. -/
structure Connection where
  protocol : Protocol
  phase : Phase
  released : Bool
  left : List Network.Item
  trace : Network.Trace
  deriving Repr

namespace Connection

/-- A connection that has been made to a place. -/
def made (place : List Char × Int) (reply : List Network.Item) : Connection :=
  ⟨.start, .active, false, reply, { Network.Trace.none with connects := [place] }⟩

/-- Reads once. -/
def read (c : Connection) : Except NetworkFailure (List UInt8) × Connection :=
  let came := Network.read c.left
  (came.1, { c with left := came.2, trace := { c.trace with reads := c.trace.reads + 1 } })

/-- Writes bytes, unless writing fails. -/
def write (c : Connection) (failure : Option NetworkFailure) (bytes : List UInt8) :
    Except NetworkFailure Unit × Connection :=
  match failure with
  | some f => (.error f, c)
  | none => (.ok (), { c with trace := { c.trace with sent := c.trace.sent ++ bytes } })

/-- Closes a connection. -/
def close (c : Connection) : Connection :=
  { c with phase := .closed, trace := { c.trace with closed := c.trace.closed + 1 } }

/-- Ends the exchange of a connection, which is kept if it can serve another one. -/
def release (c : Connection) : Connection :=
  if c.protocol.isReusable then { c with phase := .idle, protocol := c.protocol.nextCycle }
  else c.close

/-- Lets a connection go behind its reply; this is done once. -/
def letGo (c : Connection) : Connection :=
  if c.released then c else { c.release with released := true }

/-- The client leaves, and closes a connection that is not closed yet. -/
def leave (c : Connection) : Connection := if c.phase = .closed then c else c.close

/-- A read that gives bytes leaves less to come. -/
theorem size_left_lt {c c' : Connection} {b : UInt8} {bs : List UInt8}
    (h : c.read = (.ok (b :: bs), c')) : Network.size c'.left < Network.size c.left := by
  obtain ⟨hcame, rfl⟩ := Prod.mk.inj h
  exact Network.size_read_lt (Prod.ext hcame rfl)

end Connection
end Http
end RouteProbe
