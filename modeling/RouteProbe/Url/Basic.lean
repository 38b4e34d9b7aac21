import RouteProbe.Text.Integer
import RouteProbe.Url.Escape

/-!
# URLs

A URL in its parts, every one as it is sent: in ASCII, with its escapes, and the
host of an address without brackets.  A default port is left out, so two URLs of
one meaning have one port.
-/

namespace RouteProbe

open Text

/-- A URL in parts. -/
structure Url where
  scheme : List Char
  user : List Char
  host : List Char
  port : Option Int
  path : List Char
  query : Option (List Char)
  fragment : Option (List Char)
  deriving Repr, DecidableEq

namespace Url

/-- A part of a URL that can be given by itself. -/
inductive Component where
  | scheme
  | authority
  | path
  | query
  | fragment
  | host
  deriving Repr, DecidableEq

/-- The name of a part. -/
def Component.name : Component → String
  | .scheme => "scheme"
  | .authority => "authority"
  | .path => "path"
  | .query => "query"
  | .fragment => "fragment"
  | .host => "host"

end Url

/-- Why a text is not a URL. -/
inductive UrlError where
  | tooLong
  | unprintable (c : Char) (index : Nat)
  | componentTooLong (part : Url.Component)
  | componentUnprintable (part : Url.Component) (c : Char) (index : Nat)
  | invalidIPv4 (host : List Char)
  | invalidIPv6 (host : List Char)
  | invalidDomain (host : List Char)
  | invalidPort (port : List Char)
  | pathWithoutSlash
  | pathWithTwoSlashes
  | pathWithColon
  deriving Repr, DecidableEq

namespace UrlError

/-- The message of an error. -/
def message : UrlError → String
  | .tooLong => "URL too long"
  | .unprintable c i =>
      "Invalid non-printable ASCII character in URL, " ++ String.ofList (quoted [c]) ++
        " at position " ++ toString i ++ "."
  | .componentTooLong p => "URL component '" ++ p.name ++ "' too long"
  | .componentUnprintable p c i =>
      "Invalid non-printable ASCII character in URL " ++ p.name ++ " component, " ++
        String.ofList (quoted [c]) ++ " at position " ++ toString i ++ "."
  | .invalidIPv4 h => "Invalid IPv4 address: " ++ String.ofList (quoted h)
  | .invalidIPv6 h => "Invalid IPv6 address: " ++ String.ofList (quoted h)
  | .invalidDomain h => "Invalid IDNA hostname: " ++ String.ofList (quoted h)
  | .invalidPort p => "Invalid port: " ++ String.ofList (quoted p)
  | .pathWithoutSlash => "For absolute URLs, path must be empty or begin with '/'"
  | .pathWithTwoSlashes => "Relative URLs cannot have a path starting with '//'"
  | .pathWithColon => "Relative URLs cannot have a path starting with ':'"

end UrlError

namespace Url

/-- The host with its port, an address in brackets. -/
def location (u : Url) : List Char :=
  (if u.host.contains ':' then '[' :: u.host ++ [']'] else u.host) ++
    match u.port with
    | some n => ':' :: intText n
    | none => []

/-- The location with the user information before it. -/
def authority (u : Url) : List Char :=
  (if u.user.isEmpty then [] else u.user ++ ['@']) ++ u.location

/-- A part behind the character that begins it. -/
def markedBy (c : Char) : Option (List Char) → List Char
  | some cs => c :: cs
  | none => []

/-- The text of a URL. -/
def text (u : Url) : List Char :=
  (if u.scheme.isEmpty then [] else u.scheme ++ [':']) ++
    ((if u.authority.isEmpty then [] else '/' :: '/' :: u.authority) ++
      (u.path ++ (markedBy '?' u.query ++ markedBy '#' u.fragment)))

/-- What is asked of the host: the path, or a slash for none, and the query. -/
def target (u : Url) : List Char :=
  (if u.path.isEmpty then ['/'] else u.path) ++ markedBy '?' u.query

/-- The URL names a scheme and a host, so it can be asked for by itself. -/
def isAbsolute (u : Url) : Bool := !u.scheme.isEmpty && !u.host.isEmpty

/-- The name of the user. -/
def userName (u : Url) : List Char := unescapedText (u.user.takeWhile (· ≠ ':'))

/-- The password of the user. -/
def password (u : Url) : List Char := unescapedText ((u.user.dropWhile (· ≠ ':')).drop 1)

/-- The text that the fragment stands for. -/
def fragmentText (u : Url) : List Char := unescapedText (u.fragment.getD [])

/-- The port that a scheme implies. -/
def defaultPort? (scheme : List Char) : Option Int :=
  if scheme = "http".toList ∨ scheme = "ws".toList then some 80
  else if scheme = "https".toList ∨ scheme = "wss".toList then some 443
  else if scheme = "ftp".toList then some 21
  else none

@[simp] theorem markedBy_none (c : Char) : markedBy c none = [] := rfl

@[simp] theorem markedBy_some (c : Char) (cs : List Char) : markedBy c (some cs) = c :: cs := rfl

end Url
end RouteProbe
