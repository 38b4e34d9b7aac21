import RouteProbe.Query.Error

/-!
# Where a reply sends the reader on

A reply can name another URL to ask.  It is not asked, but it is read, as if it
were going to be: completed from the URL that was asked, and brought into the form
of a request.  A reply whose target cannot be read that far is no proper reply.
-/

namespace RouteProbe

open Text

/-- How reading a target can fail. -/
inductive TargetError where
  | url (e : UrlError)
  | location (e : UrlError)
  | domain (e : Url.DomainError)
  | reference (e : ReferenceError)
  | notAscii (location : List Char)
  deriving Repr, DecidableEq

namespace Url

/-- The host as a reader sees it. -/
def hostForReader (u : Url) : Except TargetError (List Char) :=
  u.readableHost.mapError .domain

/-- Checks that the location can be written in a request. -/
def checkLocationText (u : Url) : Except TargetError Unit :=
  if u.location.all fun c => c.toNat < 0x80 then .ok () else .error (.notAscii u.location)

/-- The port, or the one that the scheme implies. -/
def portOrDefault (u : Url) : Option Int :=
  match u.port with
  | some n => some n
  | none => if u.scheme = "http".toList then some 80
      else if u.scheme = "https".toList then some 443 else none

/-- A URL with a scheme, and with the host of the one that was asked if it has none. -/
def completedBy (url asked : Url) : Except TargetError Url := do
  if (← url.hostForReader).isEmpty then
    (url.withHost (← asked.hostForReader)).mapError .url
  else return url

/-- The URL that a reply names, completed from the one that was asked. -/
def followed (asked : Url) (locationText : List Char) : Except TargetError Url := do
  let url ← (parse locationText).mapError .location
  let url ← if url.scheme.isEmpty then pure url else url.completedBy asked
  let url ←
    if url.isAbsolute then pure url
    else do
      let text ← (asked.joinText url).mapError .reference
      (parse text).mapError .url
  if !asked.fragmentText.isEmpty && url.fragmentText.isEmpty then
    (url.withFragment asked.fragmentText).mapError .url
  else return url

/-- Reads the target of a reply as far as a request for it would be written.  The
location is written anew where the target is another place than the one asked. -/
def checkTarget (asked : Url) (locationText : List Char) : Except TargetError Unit := do
  let url ← asked.followed locationText
  let host ← url.hostForReader
  let askedHost ← asked.hostForReader
  if url.scheme = asked.scheme ∧ host = askedHost ∧ url.portOrDefault = asked.portOrDefault then
    return ()
  else url.checkLocationText

end Url
end RouteProbe
