import RouteProbe.Text.Digit

/-!
# Literal addresses

A host may be a literal address: four numbers apart by dots, or, in brackets,
eight groups of hexadecimal digits apart by colons, of which one run of zeros may
be left out.
-/

namespace RouteProbe
namespace Url

open Text

/-- The text looks like four numbers apart by dots, so it has to be an address.  Digits alone do
not: a host such as 2130706433 is a name. -/
def looksLikeIPv4 (cs : List Char) : Bool :=
  let parts := cs.splitOn '.'
  parts.length = 4 && parts.all fun part => !part.isEmpty && part.all isAsciiDigit

/-- One of the four numbers: at most 255, without a zero in front. -/
def isOctet (cs : List Char) : Bool :=
  !cs.isEmpty && cs.all isAsciiDigit && cs.length ≤ 3 &&
    (cs.length = 1 || cs.head? ≠ some '0') &&
    decimalNumber cs ≤ 255

/-- Four numbers apart by dots. -/
def isIPv4 (cs : List Char) : Bool :=
  let parts := cs.splitOn '.'
  parts.length = 4 && parts.all isOctet

/-- A group of hexadecimal digits. -/
def isHexGroup (cs : List Char) : Bool :=
  !cs.isEmpty && cs.length ≤ 4 && cs.all fun c => (hexValue? c).isSome

/-- The groups of an address; four numbers at its end count as two groups. -/
def hexGroups? (cs : List Char) : Option (List (List Char)) :=
  let parts := cs.splitOn ':'
  if parts.length < 3 then none
  else
    match parts.getLast? with
    | some final =>
        if final.contains '.' then
          if isIPv4 final then some (parts.dropLast ++ [['0'], ['0']]) else none
        else some parts
    | none => none

/-- Groups that stand for eight: all of them, or fewer with one run of zeros left
out, which shows as an empty group between others. -/
def areHexGroups (parts : List (List Char)) : Bool :=
  if 9 < parts.length then false
  else
    match (parts.drop 1).dropLast.count [] with
    | 0 => parts.length = 8 && parts.all isHexGroup
    | 1 =>
        let gap := (parts.drop 1).idxOf [] + 1
        let front := parts.take gap
        let back := parts.drop (gap + 1)
        let front' := if front.head? = some [] then front.drop 1 else front
        let back' := if back.getLast? = some [] then back.dropLast else back
        (front.head? ≠ some [] || front'.isEmpty) &&
        (back.getLast? ≠ some [] || back'.isEmpty) &&
          front'.length + back'.length < 8 && front'.all isHexGroup && back'.all isHexGroup
    | _ => false

/-- The zone of an address, behind a percent sign. -/
def zone? (cs : List Char) : Option (List Char) :=
  match cs.dropWhile (· ≠ '%') with
  | _ :: zone => some zone
  | [] => none

/-- A zone names something, and holds no second percent sign. -/
def isZone (zone : List Char) : Bool := !zone.isEmpty && !zone.contains '%'

/-- Groups of hexadecimal digits, with or without a zone. -/
def isIPv6 (cs : List Char) : Bool :=
  !cs.contains '/' && ((zone? cs).map isZone).getD true &&
    ((hexGroups? (cs.takeWhile (· ≠ '%'))).map areHexGroups).getD false

end Url
end RouteProbe
