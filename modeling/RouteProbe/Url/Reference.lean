import RouteProbe.Url.Parse

/-!
# References

A URL that is not absolute is a reference: it is taken against another URL, from
which it has what it lacks.  Both are taken as texts here, and so is the result,
which is then read like any other URL.
-/

namespace RouteProbe

open Text

/-- Why a reference cannot be taken against a URL. -/
inductive ReferenceError where
  | unbalancedBrackets
  | futureAddress
  | addressInBrackets
  | notAnAddress (text : List Char)
  | misleadingLocation (text : List Char)
  deriving Repr, DecidableEq

/-- The message of an error. -/
def ReferenceError.message : ReferenceError → String
  | .unbalancedBrackets => "Invalid IPv6 URL"
  | .futureAddress => "IPvFuture address is invalid"
  | .addressInBrackets => "An IPv4 address cannot be in brackets"
  | .notAnAddress cs =>
    String.ofList (quoted cs) ++ " does not appear to be an IPv4 or IPv6 address"
  | .misleadingLocation cs =>
      "netloc '" ++ String.ofList cs ++ "' contains invalid characters under NFKC normalization"

namespace Url

/-- Characters that look like one that divides the parts of a URL. -/
def dividerLookalikes : List Nat :=
  [0x2047, 0x2048, 0x2049, 0x2100, 0x2101, 0x2105, 0x2106, 0x2a74, 0xfe13, 0xfe16, 0xfe55, 0xfe56,
    0xfe5f, 0xfe6b, 0xff03, 0xff0f, 0xff1a, 0xff1f, 0xff20]

/-- An address of a kind to come: a version in hexadecimal, a dot, and more. -/
def isFutureAddress (cs : List Char) : Bool :=
  let (version, rest) := (cs.drop 1).span fun c => (hexValue? c).isSome
  !version.isEmpty && rest.head? = some '.' && 2 ≤ rest.length

/-- Checks what stands in the first brackets of a location. -/
def checkBrackets (location : List Char) : Except ReferenceError Unit :=
  match location.contains '[', location.contains ']' with
  | true, true =>
      let address := ((location.dropWhile (· ≠ '[')).drop 1).takeWhile (· ≠ ']')
      if address.head? = some 'v' then
        if isFutureAddress address then .ok () else .error .futureAddress
      else if isIPv4 address then .error .addressInBrackets
      else if isIPv6 address then .ok ()
      else .error (.notAnAddress address)
  | false, false => .ok ()
  | _, _ => .error .unbalancedBrackets

/-- Checks the location of a URL or of a reference. -/
def checkLocation (location : List Char) : Except ReferenceError Unit := do
  checkBrackets location
  if location.any fun c => dividerLookalikes.contains c.toNat then
    throw (.misleadingLocation location)

/-- Cuts the parameters off a path: what is behind the first semicolon of its last
segment. -/
def cutParameters (path : List Char) : List Char × List Char :=
  let final := (path.reverse.takeWhile (· ≠ '/')).reverse
  let (kept, cut) := cutAt [';'] final
  (path.take (path.length - final.length) ++ kept, cut.drop 1)

/-- The segments of a path against the path of a base, before dots are followed:
the last segment of the base gives way, and empty segments are dropped. -/
def resolvedSegments (base path : List Char) : List (List Char) :=
  if path.head? = some '/' then path.splitOn '/'
  else
    let kept := base.splitOn '/'
    let kept := if kept.getLast? = some [] then kept else kept.dropLast
    match kept ++ path.splitOn '/' with
    | first :: second :: more =>
        let rest := second :: more
        first :: rest.dropLast.filter (fun s => !s.isEmpty) ++ rest.drop (rest.length - 1)
    | segments => segments

/-- Follows one segment; `done` are those before it, last first. -/
def resolveSegment (done : List (List Char)) (segment : List Char) : List (List Char) :=
  if segment = up then done.drop 1 else if segment = here then done else segment :: done

/-- A path taken against the path of a base. -/
def resolvedPath (base path : List Char) : List Char :=
  let segments := resolvedSegments base path
  let done := segments.foldl resolveSegment []
  let done :=
    if segments.getLast? = some here ∨ segments.getLast? = some up then [] :: done else done
  let joined := ['/'].intercalate done.reverse
  if joined.isEmpty then ['/'] else joined

/-- A part behind the character that begins it; an empty part is left out. -/
def markedUnlessEmpty (c : Char) (cs : List Char) : List Char :=
  if cs.isEmpty then [] else c :: cs

/-- The text of an absolute URL from its parts. -/
def absoluteText (scheme location path parameters query fragment : List Char) : List Char :=
  let path := path ++ markedUnlessEmpty ';' parameters
  let path := if path.isEmpty ∨ path.head? = some '/' then path else '/' :: path
  scheme ++ (':' :: '/' :: '/' :: location) ++ path ++ markedUnlessEmpty '?' query ++
    markedUnlessEmpty '#' fragment

/-- The text of a reference taken against a URL. -/
def joinText (base reference : Url) : Except ReferenceError (List Char) := do
  let text := reference.text
  if text.isEmpty then return base.text
  checkLocation base.authority
  let p := Parts.ofText text
  checkLocation p.authority
  let scheme := p.scheme.map lowerAscii
  if !scheme.isEmpty && scheme ≠ base.scheme then return text
  let query := p.query.getD []
  let fragment := p.fragment.getD []
  let (path, parameters) := cutParameters p.path
  if !p.authority.isEmpty then
    return absoluteText base.scheme p.authority path parameters query fragment
  let (basePath, baseParameters) := cutParameters base.path
  if path.isEmpty && parameters.isEmpty then
    let query := if query.isEmpty then base.query.getD [] else query
    return absoluteText base.scheme base.authority basePath baseParameters query fragment
  return absoluteText base.scheme base.authority (resolvedPath basePath path) parameters query
    fragment

end Url
end RouteProbe
