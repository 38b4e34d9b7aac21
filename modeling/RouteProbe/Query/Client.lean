import RouteProbe.Query.Run
import RouteProbe.Text.Lower

/-!
# Clients

A query goes through a client, and the client looks at the variables of the environment: they can
name a proxy to go through, hosts to reach without one, and certificates to trust.  It also keeps
records of what it does on a connection, and it stores the cookies of a reply, of which the
interpreter can warn.

`Client.plain` looks at no variable and adds nothing to what a query says.  A client that goes
straight does the same on the network where no variable tells it otherwise
(`Client.GoesStraight`), whatever it records and warns of.
-/

namespace RouteProbe

open Text

/-- A client: what a query through it comes to, by the variables of the environment, the host, the
path and the script. -/
abbrev Client := List (String × String) → List Char → List Char → Network.Script → Report

namespace Client

/-- The client that looks at no variable and adds nothing. -/
def plain : Client := fun _ host path script => Query.run host path script

/-- The variables that name proxies, and hosts to reach without one; their case does not count. -/
def proxyNames : List String := ["http_proxy", "https_proxy", "all_proxy", "no_proxy"]

/-- The variables that name certificates, and a file for the keys of connections. -/
def certificateNames : List String := ["SSL_CERT_FILE", "SSL_CERT_DIR", "SSLKEYLOGFILE"]

/-- A variable of a name tells a client where to go or whom to trust. -/
def isTelling (name : String) : Bool :=
  proxyNames.contains (String.ofList (name.toList.map lowerAscii)) || certificateNames.contains name

/-- No variable tells a client where to go or whom to trust. -/
def IsDirect (vars : List (String × String)) : Prop := ∀ v ∈ vars, isTelling v.1 = true → v.2 = ""

instance (vars : List (String × String)) : Decidable (IsDirect vars) :=
  inferInstanceAs (Decidable (∀ v ∈ vars, isTelling v.1 = true → v.2 = ""))

/-- The loggers of the client's own records. -/
def recordLoggers : List Log.Name :=
  ["connection", "http11", "http2", "proxy", "socks"].map fun part => ("httpcore." ++ part).toList

end Client

/-- The first report is the second one, with records and warnings among its notices.  The records
are on the client's own loggers. -/
structure Report.Annotates (r q : Report) : Prop where
  result : r.result = q.result
  trace : r.trace = q.trace
  own : r.notices.filter Notice.isOwn = q.notices
  records : ∀ logger text, .traced logger text ∈ r.notices → logger ∈ Client.recordLoggers

/-- Where no variable tells it otherwise, a client comes to what a query comes to, does the same on
the network, and says what a query says.  Beside that it may warn, and keep records. -/
def Client.GoesStraight (client : Client) : Prop :=
  ∀ vars host path script, IsDirect vars →
    (client vars host path script).Annotates (Query.run host path script)

end RouteProbe
