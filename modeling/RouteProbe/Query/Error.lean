import RouteProbe.Http.Exchange
import RouteProbe.Url.Reference

/-!
# Failed queries

A query fails because the collector answers with a status other than 200, because
host and path make no URL, because the request or the reply does not get through,
or because the body cannot be decoded.  Beyond these, a host or a target can be one
that no request can be written for.
-/

namespace RouteProbe

open Text

/-- The collector answered with a status other than 200 (`IntrospectionStatusError`). -/
structure StatusError where
  url : List Char
  code : Int
  reason : List Char
  deriving Repr, DecidableEq

namespace StatusError

/-- The code and the reason. -/
def status (e : StatusError) : List Char := trimEnd (intText e.code ++ ' ' :: e.reason)

/-- The message of the error. -/
def message (e : StatusError) : List Char := "IntrospectionQuery failed with ".toList ++ e.status

end StatusError

/-- Host and path make no URL (`IntrospectionURLError`). -/
structure InvalidUrl where
  url : List Char
  reason : List Char
  deriving Repr, DecidableEq

/-- The message of the error. -/
def InvalidUrl.message (e : InvalidUrl) : List Char :=
  "IntrospectionQuery failed with invalid URL ".toList ++ quoted e.url ++ ':' :: ' ' :: e.reason

/-- How a query can fail. -/
inductive QueryError where
  | status (e : StatusError)
  | url (e : InvalidUrl)
  | transport (e : Http.TransportError)
  | decoding (e : Coding.ContainerError)
  | domain (e : Url.DomainError)
  | reference (e : ReferenceError)
  | notAscii (location : List Char)
  deriving Repr, DecidableEq

/-- The message for a text that is not ASCII: where it is not, for the first time. -/
def notAsciiMessage (cs : List Char) : List Char :=
  let isAscii (c : Char) : Bool := c.toNat < 0x80
  let start := (cs.takeWhile isAscii).length
  let run := (cs.dropWhile isAscii).takeWhile fun c => !isAscii c
  let position :=
    match run with
    | [c] =>
        "character '".toList ++ numericEscape c.toNat ++ "' in position ".toList ++ natText start
    | _ => "characters in position ".toList ++ natText start ++ '-' ::
        natText (start + run.length - 1)
  "'ascii' codec can't encode ".toList ++ position ++ ": ordinal not in range(128)".toList

namespace QueryError

/-- The name of an error. -/
def name : QueryError → String
  | .status _ => "IntrospectionStatusError"
  | .url _ => "IntrospectionURLError"
  | .transport e => e.name
  | .decoding _ => "DecodingError"
  | .domain e =>
      match e.family with
      | .name => "IDNAError"
      | .character => "InvalidCodepoint"
      | .context => "InvalidCodepointContext"
      | .direction => "IDNABidiError"
  | .reference _ => "ValueError"
  | .notAscii _ => "UnicodeEncodeError"

/-- The message of an error. -/
def message : QueryError → List Char
  | .status e => e.message
  | .url e => e.message
  | .transport e => e.message.toList
  | .decoding e => e.message.toList
  | .domain e => e.message.toList
  | .reference e => e.message.toList
  | .notAscii cs => notAsciiMessage cs

end QueryError
end RouteProbe
