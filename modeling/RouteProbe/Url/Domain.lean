import RouteProbe.Text.Blank
import RouteProbe.Text.Composed
import RouteProbe.Text.Lower
import RouteProbe.Text.Quoted
import RouteProbe.Url.Punycode
import RouteProbe.Url.Repertoire

/-!
# International host names

A host name beyond ASCII is sent in ASCII, label by label, and every label is
checked first: its form, its hyphens, its first character, each character by
itself or in its context, and the direction in which its characters run.  A name
already in ASCII whose labels stand for others is checked when it is read back.
-/

namespace RouteProbe
namespace Url

open Text

/-- Why a host name is not one.  Positions count from one. -/
inductive DomainError where
  | domainTooLong
  | emptyDomain
  | labelTooLong
  | emptyLabel
  | notComposed
  | innerHyphens
  | outerHyphen
  | startsWithMark
  | notPermitted (code position : Nat) (label : List Nat)
  | strayJoiner (code position : Nat) (label : List Nat)
  | outOfContext (code position : Nat) (label : List Nat)
  | unknownDirection (position : Nat) (label : List Nat)
  | startsWithoutDirection (label : List Nat)
  | leftInRight (position : Nat)
  | rightInLeft (position : Nat)
  | mixedNumbers
  | endsWithoutDirection
  | nothingEncoded
  | encodedEndsWithHyphen
  | notEncoded
  deriving Repr, DecidableEq

/-- The families of errors that the rules for host names tell apart. -/
inductive DomainError.Family where
  | name
  | character
  | context
  | direction
  deriving Repr, DecidableEq

/-- A label in quotes; a number that is no character is escaped. -/
def quotedLabel (label : List Nat) : List Char :=
  let q := quoteFor (label.map Char.ofNat)
  q :: label.flatMap (fun n =>
      if n.isValidChar then quotedChar isPrintable q (Char.ofNat n) else numericEscape n) ++ [q]

/-- A code point as it is written in a message. -/
def codeText (n : Nat) : String :=
  let digits := Nat.toDigits 16 n
  "U+" ++ String.ofList (List.replicate (4 - digits.length) '0' ++ digits.map fun c =>
    if 'a' ≤ c then Char.ofNat (c.toNat - 32) else c)

namespace DomainError

/-- The family of an error. -/
def family : DomainError → Family
  | .notPermitted .. => .character
  | .outOfContext .. => .context
  | .unknownDirection .. | .startsWithoutDirection _ | .leftInRight _ | .rightInLeft _
  | .mixedNumbers | .endsWithoutDirection => .direction
  | _ => .name

/-- The message of an error. -/
def message : DomainError → String
  | .domainTooLong => "Domain too long"
  | .emptyDomain => "Empty domain"
  | .labelTooLong => "Label too long"
  | .emptyLabel => "Empty Label"
  | .notComposed => "Label must be in Normalization Form C"
  | .innerHyphens => "Label has disallowed hyphens in 3rd and 4th position"
  | .outerHyphen => "Label must not start or end with a hyphen"
  | .startsWithMark => "Label begins with an illegal combining character"
  | .notPermitted n i l =>
      "Codepoint " ++ codeText n ++ " at position " ++ toString i ++ " of " ++
        String.ofList (quotedLabel l) ++ " not allowed"
  | .strayJoiner n i l =>
      "Unknown codepoint adjacent to joiner " ++ codeText n ++ " at position " ++ toString i ++
        " in " ++ String.ofList (quotedLabel l)
  | .outOfContext n i l =>
      "Codepoint " ++ codeText n ++ " not allowed at position " ++ toString i ++ " in " ++
        String.ofList (quotedLabel l)
  | .unknownDirection i l =>
      "Unknown directionality in label " ++ String.ofList (quotedLabel l) ++ " at position " ++
        toString i
  | .startsWithoutDirection l =>
      "First codepoint in label " ++ String.ofList (quotedLabel l) ++
        " must be directionality L, R or AL"
  | .leftInRight i =>
      "Invalid direction for codepoint at position " ++ toString i ++ " in a right-to-left label"
  | .rightInLeft i =>
      "Invalid direction for codepoint at position " ++ toString i ++ " in a left-to-right label"
  | .mixedNumbers => "Can not mix numeral types in a right-to-left label"
  | .endsWithoutDirection => "Label ends with illegal codepoint directionality"
  | .nothingEncoded => "Malformed A-label, no Punycode eligible content found"
  | .encodedEndsWithHyphen => "A-label must not end with a hyphen"
  | .notEncoded => "Invalid A-label"

end DomainError

namespace Domain

/-- The direction of a character. -/
inductive Direction where
  | left
  | right
  | arabicNumber
  | europeanNumber
  | mark
  | neutral
  | unknown
  deriving Repr, DecidableEq

/-- The direction of a permitted code point. -/
def directionOf (n : Nat) : Direction :=
  if europeanNumbers.mem n then .europeanNumber
  else if neutrals.mem n then .neutral
  else if n < 0x80 then .left
  else if nonspacingMarks.mem n then .mark
  else if rightToLeft.mem n then .right
  else if arabicNumbers.mem n then .arabicNumber
  else if unassigned.mem n then .unknown
  else .left

/-- Checks the characters of a label that starts at the right. -/
def checkRight (number : Option Direction) (position : Nat) :
    List Direction → Except DomainError Unit
  | [] => .ok ()
  | d :: ds =>
      if d = .left then .error (.leftInRight position)
      else if d = .arabicNumber ∨ d = .europeanNumber then
        if number.getD d = d then checkRight (some d) (position + 1) ds
        else .error .mixedNumbers
      else checkRight number (position + 1) ds

/-- Checks the characters of a label that starts at the left. -/
def checkLeft (position : Nat) : List Direction → Except DomainError Unit
  | [] => .ok ()
  | d :: ds =>
      if d = .right ∨ d = .arabicNumber then .error (.rightInLeft position)
      else checkLeft (position + 1) ds

/-- The last character that has a direction of its own. -/
def lastDirected (ds : List Direction) : Option Direction :=
  (dropEndWhile (· = .mark) ds).getLast?

/-- Checks how the characters of a label run.  Only a label with a character that
runs from the right has to follow the rules. -/
def checkDirections (label : List Nat) : Except DomainError Unit :=
  let ds := label.map directionOf
  match ds.idxOf? .unknown, ds with
  | some i, _ => .error (.unknownDirection (i + 1) label)
  | none, [] => .ok ()
  | none, d :: _ =>
      if ds.contains .right || ds.contains .arabicNumber then
        match d with
        | .right => do
            checkRight none 1 ds
            match lastDirected ds with
            | some .right | some .arabicNumber | some .europeanNumber => .ok ()
            | _ => .error .endsWithoutDirection
        | .left => do
            checkLeft 1 ds
            match lastDirected ds with
            | some .left | some .europeanNumber => .ok ()
            | _ => .error .endsWithoutDirection
        | _ => .error (.startsWithoutDirection label)
      else .ok ()

/-- The first of some code points that joining does not look through. -/
def neighbour? (ns : List Nat) : Option Nat :=
  (ns.dropWhile transparentJoining.mem).head?

/-- The combining class of marks that silence a vowel. -/
def silencing : Nat := 9

/-- A joiner may stand between `before`, nearest first, and `after`: behind a mark
that silences, and, for the one that keeps letters apart, between letters that
would join. -/
def joinerFits (n : Nat) (before after : List Nat) : Bool :=
  match before with
  | [] => false
  | b :: _ =>
      !unassigned.mem b &&
        (markClass b = silencing || n = 0x200c &&
          ((neighbour? before).map fun m => leftJoining.mem m || dualJoining.mem m).getD false &&
          ((neighbour? after).map fun m => rightJoining.mem m || dualJoining.mem m).getD false)

/-- A character that needs a context has it. -/
def contextFits (n : Nat) (before after label : List Nat) : Bool :=
  if n = 0xb7 then before.head? = some 0x6c && after.head? = some 0x6c
  else if n = 0x375 then (after.head?.map greekScript.mem).getD false
  else if n = 0x5f3 ∨ n = 0x5f4 then (before.head?.map hebrewScript.mem).getD false
  else if n = 0x30fb then
    label.any fun m =>
      m ≠ 0x30fb && (hiraganaScript.mem m || katakanaScript.mem m || hanScript.mem m)
  else if 0x660 ≤ n ∧ n ≤ 0x669 then !label.any fun m => 0x6f0 ≤ m && m ≤ 0x6f9
  else if 0x6f0 ≤ n ∧ n ≤ 0x6f9 then !label.any fun m => 0x660 ≤ m && m ≤ 0x669
  else false

/-- Checks each character of a label; `before` are those passed, nearest first. -/
def checkCharacters (label before : List Nat) : List Nat → Except DomainError Unit
  | [] => .ok ()
  | n :: ns =>
      let position := before.length + 1
      if permitted.mem n then checkCharacters label (n :: before) ns
      else if joiners.mem n then
        if joinerFits n before ns then checkCharacters label (n :: before) ns
        else .error (.strayJoiner n position label)
      else if contextual.mem n then
        if contextFits n before ns label then checkCharacters label (n :: before) ns
        else .error (.outOfContext n position label)
      else .error (.notPermitted n position label)

/-- The code point of the hyphen. -/
def hyphen : Nat := 0x2d

/-- The most characters that a name may have; one more when it ends in a dot. -/
def maxName : Nat := 253

/-- The most characters that a label in ASCII may have. -/
def maxLabel : Nat := 63

/-- Checks a label. -/
def checkLabel (label : List Nat) : Except DomainError Unit :=
  if label.isEmpty then .error .emptyLabel
  else if maxName + 1 < label.length then .error .labelTooLong
  else if !(label.all (· < 0xc0) || composed label == label) then .error .notComposed
  else if (label.drop 2).take 2 = [hyphen, hyphen] then .error .innerHyphens
  else if label.head? = some hyphen ∨ label.getLast? = some hyphen then .error .outerHyphen
  else if (label.head?.map marks.mem).getD false then .error .startsWithMark
  else do
    checkCharacters label [] label
    checkDirections label

/-- What a label in ASCII begins with when it stands for another one. -/
def encodedMark : List Char := ['x', 'n', '-', '-']

/-- The label that a label in ASCII stands for, in lower case. -/
def decodeLabel (cs : List Char) : Except DomainError (List Nat) := do
  let lowered := cs.map lowerAscii
  if encodedMark.isPrefixOf lowered then
    let digits := lowered.drop encodedMark.length
    if digits.isEmpty then throw .nothingEncoded
    if digits.getLast? = some '-' then throw .encodedEndsWithHyphen
    match Punycode.decode digits with
    | some label =>
        checkLabel label
        return label
    | none => throw .notEncoded
  else
    let label := lowered.map Char.toNat
    checkLabel label
    return label

/-- The ASCII form of a label. -/
def encodeLabel (cs : List Char) : Except DomainError (List Char) := do
  if cs.all fun c => c.toNat < 0x80 then
    let _ ← decodeLabel cs
    if maxLabel < cs.length then throw .labelTooLong
    return cs
  else
    let label := cs.map Char.toNat
    checkLabel label
    let encoded := encodedMark ++ Punycode.encode label
    if maxLabel < encoded.length then throw .labelTooLong
    return encoded

/-- Dots in several scripts divide the labels of a name. -/
def isDot (c : Char) : Bool := c = '.' || c = '\u3002' || c = '\uff0e' || c = '\uff61'

/-- The labels of a name, and whether it ends in a dot. -/
def labels (cs : List Char) : Except DomainError (List (List Char) × Bool) :=
  if maxName + 1 < cs.length then .error .domainTooLong
  else if cs.isEmpty then .error .emptyDomain
  else
    let parts := cs.splitOnP isDot
    if parts.getLast? = some [] then .ok (parts.dropLast, true) else .ok (parts, false)

/-- Labels with dots between them, and behind them if the name ends in one. -/
def joinLabels (parts : List (List Char)) (dotted : Bool) : List Char :=
  ['.'].intercalate (if dotted then parts ++ [[]] else parts)

/-- The ASCII form of a name. -/
def toAscii (cs : List Char) : Except DomainError (List Char) := do
  let (parts, dotted) ← labels cs
  let encoded ← parts.mapM encodeLabel
  let name := joinLabels encoded dotted
  if (if dotted then maxName + 1 else maxName) < name.length then throw .domainTooLong
  return name

/-- The name that a name in ASCII stands for. -/
def ofAscii (cs : List Char) : Except DomainError (List Char) := do
  let (parts, dotted) ← labels cs
  let decoded ← parts.mapM decodeLabel
  return joinLabels (decoded.map fun l => l.map Char.ofNat) dotted

end Domain
end Url
end RouteProbe
