import RouteProbe.Url.Address
import RouteProbe.Url.Basic
import RouteProbe.Url.Domain

/-!
# Reading URLs

A text is cut into parts at the characters that begin them, and every part is
brought into the form in which it is sent.  A part can also be exchanged for
another text: the URL is then read again from its parts.
-/

namespace RouteProbe
namespace Url

open Text

/-- The parts of a text before they are read. -/
structure Parts where
  scheme : List Char
  authority : List Char
  path : List Char
  query : Option (List Char)
  fragment : Option (List Char)
  deriving Repr, DecidableEq

/-- A character of a scheme. -/
def isSchemeChar (c : Char) : Bool :=
  ('a' ≤ c && c ≤ 'z') || ('A' ≤ c && c ≤ 'Z') || isAsciiDigit c ||
    c = '+' || c = '-' || c = '.'

/-- An ASCII letter. -/
def isAsciiLetter (c : Char) : Bool := ('a' ≤ c && c ≤ 'z') || ('A' ≤ c && c ≤ 'Z')

/-- The text before a part that one of `marks` begins, and the text from there. -/
def cutAt (marks : List Char) (cs : List Char) : List Char × List Char :=
  cs.span fun c => !marks.contains c

/-- Takes off the scheme, which may be empty, and its colon. -/
def takeScheme (cs : List Char) : List Char × List Char :=
  match cs.span isSchemeChar with
  | ([], ':' :: rest) => ([], rest)
  | (c :: scheme, ':' :: rest) => if isAsciiLetter c then (c :: scheme, rest) else ([], cs)
  | _ => ([], cs)

/-- Takes off two slashes and the authority behind them. -/
def takeAuthority : List Char → List Char × List Char
  | '/' :: '/' :: rest => cutAt ['/', '?', '#'] rest
  | cs => ([], cs)

/-- Cuts a text into its parts. -/
def Parts.ofText (cs : List Char) : Parts :=
  let (scheme, cs) := takeScheme cs
  let (authority, cs) := takeAuthority cs
  let (path, cs) := cutAt ['?', '#'] cs
  match cs with
  | '?' :: cs =>
      let (query, cs) := cutAt ['#'] cs
      ⟨scheme, authority, path, some query, if cs.isEmpty then none else some (cs.drop 1)⟩
  | _ :: fragment => ⟨scheme, authority, path, none, some fragment⟩
  | [] => ⟨scheme, authority, path, none, none⟩

/-- The user information before the last `@`, and the text behind it. -/
def takeUser (cs : List Char) : List Char × List Char :=
  if cs.contains '@' then
    let rest := (cs.reverse.takeWhile (· ≠ '@')).reverse
    (cs.take (cs.length - rest.length - 1), rest)
  else ([], cs)

/-- The host, up to a colon, or up to the last bracket if it begins with one, and
the text behind it. -/
def takeHost (cs : List Char) : List Char × List Char :=
  if cs.head? = some '[' ∧ cs.contains ']' then
    let rest := (cs.reverse.takeWhile (· ≠ ']')).reverse
    (cs.take (cs.length - rest.length), rest)
  else cutAt [':'] cs

/-- The port: what is behind a colon, or all of it if there is none. -/
def portText (cs : List Char) : List Char :=
  match cs with
  | ':' :: port => port
  | port => port

/-- The form in which a host is sent. -/
def readHost (cs : List Char) : Except UrlError (List Char) :=
  if cs.isEmpty then .ok []
  else if looksLikeIPv4 cs then if isIPv4 cs then .ok cs else .error (.invalidIPv4 cs)
  else if cs.head? = some '[' ∧ cs.getLast? = some ']' ∧ 2 ≤ cs.length then
    let address := (cs.drop 1).dropLast
    if isIPv6 address then .ok address else .error (.invalidIPv6 cs)
  else if cs.all fun c => c.toNat < 0x80 then .ok (escape keepsHost (cs.map lowerAscii))
  else
    match Domain.toAscii (lower cs) with
    | .ok name => .ok name
    | .error _ => .error (.invalidDomain cs)

/-- The port that a text names; none for the default of the scheme. -/
def readPort (scheme cs : List Char) : Except UrlError (Option Int) :=
  if cs.isEmpty then .ok none
  else
    match readInteger? cs with
    | none => .error (.invalidPort cs)
    | some n => .ok (if defaultPort? scheme = some n then none else some n)

/-- Checks how a path begins. -/
def checkPath (hasScheme hasAuthority : Bool) (path : List Char) : Except UrlError Unit :=
  if hasAuthority then
    if path.isEmpty ∨ path.head? = some '/' then .ok () else .error .pathWithoutSlash
  else if hasScheme then .ok ()
  else if ['/', '/'].isPrefixOf path then .error .pathWithTwoSlashes
  else if path.head? = some ':' then .error .pathWithColon
  else .ok ()

/-- The segment that stays in place. -/
def here : List Char := ['.']

/-- The segment that goes up. -/
def up : List Char := ['.', '.']

/-- Follows one segment; `done` are those before it, last first. -/
def followSegment (done : List (List Char)) (segment : List Char) : List (List Char) :=
  if segment = here then done
  else if segment = up then if done = [[]] then done else done.drop 1
  else segment :: done

/-- A path with its dot segments followed. -/
def normalPath (path : List Char) : List Char :=
  let segments := path.splitOn '/'
  if segments.contains here || segments.contains up then
    ['/'].intercalate (segments.foldl followSegment []).reverse
  else path

/-- Reads a URL from its parts, with another host if there is one. -/
def ofParts (p : Parts) (newHost : Option (List Char)) : Except UrlError Url := do
  let (user, rest) := takeUser p.authority
  let (hostText, rest) := takeHost rest
  let host ← readHost (newHost.getD hostText)
  let port ← readPort p.scheme (portText rest)
  let hasScheme := !p.scheme.isEmpty
  let hasAuthority := !user.isEmpty || !host.isEmpty || port.isSome
  checkPath hasScheme hasAuthority p.path
  let path := if hasScheme || hasAuthority then normalPath p.path else p.path
  return {
    scheme := p.scheme.map lowerAscii
    user := escape keepsUser user
    host := host
    port := port
    path := escape keepsPath path
    query := p.query.map (escape keepsQuery)
    fragment := p.fragment.map (escape keepsFragment) }

/-- The most characters of a URL, and of a part that is given by itself. -/
def maxLength : Nat := 65536

/-- An ASCII character without a printed form. -/
def isControl (c : Char) : Bool := c.toNat < 0x20 || c.toNat = 0x7f

/-- The first character without a printed form, and its place. -/
def firstControl? (cs : List Char) : Option (Char × Nat) :=
  match cs.dropWhile fun c => !isControl c with
  | c :: _ => some (c, (cs.takeWhile fun c => !isControl c).length)
  | [] => none

/-- Reads a URL. -/
def parse (cs : List Char) : Except UrlError Url :=
  if maxLength < cs.length then .error .tooLong
  else
    match firstControl? cs with
    | some (c, i) => .error (.unprintable c i)
    | none => ofParts (Parts.ofText cs) none

/-- Checks a part that is given by itself. -/
def checkComponent (part : Component) (cs : List Char) : Except UrlError Unit :=
  if maxLength < cs.length then .error (.componentTooLong part)
  else
    match firstControl? cs with
    | some (c, i) => .error (.componentUnprintable part c i)
    | none => .ok ()

/-- Reads a URL from parts that are given by themselves. -/
def ofComponents (p : Parts) (newHost : Option (List Char)) : Except UrlError Url := do
  checkComponent .scheme p.scheme
  checkComponent .authority p.authority
  checkComponent .path p.path
  checkComponent .query (p.query.getD [])
  checkComponent .fragment (p.fragment.getD [])
  checkComponent .host (newHost.getD [])
  ofParts p newHost

/-- The parts that a URL is read from again. -/
def parts (u : Url) : Parts := ⟨u.scheme, u.authority, u.path, u.query, u.fragment⟩

/-- The URL with another fragment. -/
def withFragment (u : Url) (fragment : List Char) : Except UrlError Url :=
  ofComponents { u.parts with fragment := some fragment } none

/-- The URL with another host. -/
def withHost (u : Url) (host : List Char) : Except UrlError Url :=
  ofComponents u.parts (some (if host.contains ':' then '[' :: host ++ [']'] else host))

/-- The path and query of a URL by themselves, with one slash in front. -/
def pathOnly (u : Url) : Except UrlError Url :=
  let raw := '/' :: u.target.dropWhile (· = '/')
  let (path, query) := cutAt ['?'] raw
  ofComponents ⟨[], [], path, if query.isEmpty then none else some (query.drop 1), none⟩ none

/-- The host as a reader sees it: a name in ASCII for another one is read back. -/
def readableHost (u : Url) : Except DomainError (List Char) :=
  if Domain.encodedMark.isPrefixOf u.host then Domain.ofAscii u.host else .ok u.host

end Url
end RouteProbe
