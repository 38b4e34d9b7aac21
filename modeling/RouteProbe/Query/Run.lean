import RouteProbe.Log.Tree
import RouteProbe.Query.Redirect
import RouteProbe.Route
import RouteProbe.Value

/-!
# Queries

A query asks a route of a collector for its body, once, on a connection of its own.
It says what it does in notices: the URL before it asks, the status line when a head
has come, and the error if the collector or the URL is at fault.  It speaks of a status
where it sees it, with the reply still open, and of a URL when all is over.  Errors of
the network are left to the caller to report.
-/

namespace RouteProbe

open Text

/-- What there is to say while a query runs.  An event and the record of an exchange are the query's
own; beside them the client that it goes through can keep records of what it does on a connection,
and the interpreter can warn of what a reply holds. -/
inductive Notice where
  | event (level : Log.Level) (text : List Char) (members : Members)
  | exchanged (text : List Char)
  | traced (logger : Log.Name) (text : List Char)
  | warned (text : List Char)
  deriving Repr

/-- The notice is one of the query's own. -/
def Notice.isOwn : Notice → Bool
  | .event _ _ _ | .exchanged _ => true
  | .traced _ _ | .warned _ => false

/-- What came of a query: the body or an error, what it said, and what it did. -/
structure Report where
  result : Except QueryError (List UInt8)
  notices : List Notice
  trace : Network.Trace
  deriving Repr

namespace Query

/-- A text as a value. -/
def textValue (cs : List Char) : Value := .text (String.ofList cs)

/-- What is said before anything is done. -/
def asking (url : List Char) : Notice :=
  .event .debug "Querying collector introspection endpoint".toList [("url", textValue url)]

/-- What is said of a reply that has another status than the right one. -/
def statusComplaint (e : StatusError) : Notice :=
  .event .error e.message [("url", textValue e.url), ("status", textValue e.status)]

/-- What is said of host and path that make no URL. -/
def urlComplaint (e : InvalidUrl) : Notice := .event .error e.message [("url", textValue e.url)]

/-- What is said of a head. -/
def exchanged (u : Url) (head : Http.Head) : Notice :=
  .exchanged ("HTTP Request: GET ".toList ++ u.text ++ " \"".toList ++ head.versionText ++
    ' ' :: natText head.status ++ ' ' :: head.reasonText ++ [doubleQuote])

/-- An error in a URL that was asked for. -/
def urlError (url : List Char) (e : UrlError) : QueryError := .url ⟨url, e.message.toList⟩

/-- An error in the target of a reply. -/
def targetError (url : List Char) : TargetError → QueryError
  | .url e => urlError url e
  | .location e => .transport (.location e)
  | .domain e => .domain e
  | .reference e => .reference e
  | .notAscii cs => .notAscii cs

/-- The URL that is asked for.  One without a host is taken as a path alone, and no
request can be written for it. -/
def askedUrl (url : List Char) : Except QueryError Url := do
  let u ← (Url.parse url).mapError (urlError url)
  let u ← if u.isAbsolute then pure u else u.pathOnly.mapError (urlError url)
  let host ← u.readableHost.mapError .domain
  if !host.isEmpty then
    u.checkLocationText.mapError (targetError url)
  if u.scheme.isEmpty then throw (.transport .noScheme)
  return u

/-- Where a URL is asked for: its host and port; a port of zero stands for none. -/
def placeOf (u : Url) : List Char × Int :=
  (u.host,
    match u.port with
    | some n => if n = 0 then 80 else n
    | none => 80)

/-- The statuses that send the reader on. -/
def redirectStatuses : List Nat := [301, 302, 303, 307, 308]

/-- The status of a reply that has the body. -/
def okStatus : Nat := 200

/-- Reads the target of a reply that sends the reader on. -/
def checkRedirect (url : List Char) (u : Url) (head : Http.Head) : Except QueryError Unit :=
  if redirectStatuses.contains head.status then
    match head.locationText? with
    | some text => (u.checkTarget text).mapError (targetError url)
    | none => .ok ()
  else .ok ()

/-- An error in reading the body. -/
def bodyError : Http.BodyError → QueryError
  | .transport e => .transport e
  | .decoding e => .decoding e

/-- What came of asking over a connection, and the connection after it. -/
structure Asked where
  result : Except QueryError (List UInt8)
  notices : List Notice
  connection : Http.Connection

/-- Takes what a reply is for: the body if the status is the right one, and otherwise an error, of
which something is said here. -/
def take (url : List Char) (head : Http.Head) (rest : List UInt8) (c : Http.Connection) : Asked :=
  if head.status = okStatus then
    let (result, c) := c.readBody head rest
    ⟨result.mapError bodyError, [], c⟩
  else
    let e : StatusError := ⟨url, head.status, head.reasonText⟩
    ⟨.error (.status e), [statusComplaint e], c⟩

/-- Asks for a URL over a connection.  Behind a head the connection is let go on every way out. -/
def askOver (c : Http.Connection) (failure : Option NetworkFailure) (url : List Char) (u : Url) :
    Asked :=
  match c.handle failure (.ofUrl u) with
  | (.error e, c) => ⟨.error (.transport e), [], c⟩
  | (.ok (head, rest), c) =>
      match checkRedirect url u head with
      | .error e => ⟨.error e, [exchanged u head], c.letGo⟩
      | .ok () =>
          let taken := take url head rest c
          ⟨taken.result, exchanged u head :: taken.notices, taken.connection.letGo⟩

/-- Asks for a URL on a client of its own, which leaves in the end. -/
def attempt (url : List Char) (script : Network.Script) : Report :=
  match askedUrl url with
  | .error e => ⟨.error e, [], .none⟩
  | .ok u =>
      match script.connect with
      | some f =>
          ⟨.error (.transport (.connecting f)), [],
            { Network.Trace.none with connects := [placeOf u] }⟩
      | none =>
          let asked := askOver (.made (placeOf u) script.reply) script.send url u
          ⟨asked.result, asked.notices, asked.connection.leave.trace⟩

/-- Asks for a URL.  If it turns out to be none, something is said of it here. -/
def ask (url : List Char) (script : Network.Script) : Report :=
  let tried := attempt url script
  let complaints :=
    match tried.result with
    | .error (.url e) => [urlComplaint e]
    | _ => []
  { tried with notices := asking url :: (tried.notices ++ complaints) }

/-- Asks for a path on a host (`introspection_query`). -/
def run (host path : List Char) (script : Network.Script) : Report :=
  ask (Route.url host path) script

end Query
end RouteProbe
