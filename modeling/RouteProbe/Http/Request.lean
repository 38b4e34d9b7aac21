import RouteProbe.Http.Base64
import RouteProbe.Url.Parse

/-!
# Requests

A request asks a host for a target and has no body.  Everything in it comes from
the URL or is fixed, and every line ends in a carriage return and a line feed.
-/

namespace RouteProbe
namespace Http

open Text

/-- What a request asks for, of whom, and on whose behalf. -/
structure Request where
  target : List Char
  host : List Char
  credentials : Option (List Char)
  deriving Repr, DecidableEq

/-- A field of a request. -/
abbrev RequestField := List Char × List Char

namespace Request

/-- The credentials that a URL carries: the user and the password, if there is
either. -/
def credentialsOf (u : Url) : Option (List Char) :=
  if u.userName.isEmpty && u.password.isEmpty then none
  else some (Base64.encode (utf8 u.userName ++ UInt8.ofNat ':'.toNat :: utf8 u.password))

/-- The request for a URL. -/
def ofUrl (u : Url) : Request := ⟨u.target, u.location, credentialsOf u⟩

/-- The fields of a request, in order. -/
def fields (r : Request) : List RequestField :=
  [("Host".toList, r.host),
    ("Accept".toList, "*/*".toList),
    ("Accept-Encoding".toList, "gzip, deflate".toList),
    ("Connection".toList, "keep-alive".toList),
    ("User-Agent".toList, "python-httpx/0.28.1".toList)] ++
    match r.credentials with
    | some c => [("Authorization".toList, "Basic ".toList ++ c)]
    | none => []

/-- The end of a line. -/
def lineEnd : List Char := ['\r', '\n']

/-- The text of a request. -/
def text (r : Request) : List Char :=
  "GET ".toList ++ r.target ++ " HTTP/1.1".toList ++ lineEnd ++
    r.fields.flatMap (fun f => f.1 ++ [':', ' '] ++ f.2 ++ lineEnd) ++ lineEnd

/-- The bytes of a request, whose text is ASCII. -/
def bytes (r : Request) : List UInt8 := r.text.map fun c => UInt8.ofNat c.toNat

end Request
end Http
end RouteProbe
