import RouteProbe.Text.Blank
import RouteProbe.Text.Quoted

/-!
# Files of settings

A file gives values to names, one on a line.  A line may begin with `export` and end
with a comment, and a value may be in quotes, with escapes, and then go over several
lines.  A line that is none of this is skipped and its number is reported.  A value
may refer to names given before it and to the variables of the environment.
-/

namespace RouteProbe
namespace EnvFile

open Text

/-- A statement: a name with its value, if it has one, a blank or a comment, or a
line that is neither, by its number. -/
inductive Statement where
  | binding (name : List Char) (value : Option (List Char))
  | nothing
  | malformed (line : Nat)
  deriving Repr, DecidableEq

/-- Line ends of every kind as line feeds. -/
def unifyLines : List Char → List Char
  | '\r' :: '\n' :: cs => '\n' :: unifyLines cs
  | '\r' :: cs => '\n' :: unifyLines cs
  | c :: cs => c :: unifyLines cs
  | [] => []

/-- A blank within a line. -/
def isInnerBlank (c : Char) : Bool := isBlank c && c ≠ '\n' && c ≠ '\r'

/-- A character of a name without quotes. -/
def isNameChar (c : Char) : Bool := c ≠ '=' && c ≠ '#' && !isBlank c

/-- A character that does not end a line. -/
def isInLine (c : Char) : Bool := c ≠ '\n' && c ≠ '\r'

/-- The word that may begin a statement. -/
def exportWord : List Char := "export".toList

/-- Leaves out the word that may begin a statement, with the blanks behind it. -/
def skipExport (cs : List Char) : List Char :=
  if exportWord.isPrefixOf cs &&
      ((cs.drop exportWord.length).head?.map isInnerBlank).getD false then
    (cs.drop exportWord.length).dropWhile isInnerBlank
  else cs

/-- Takes a name: none before a comment, one in quotes, or one without.  Fails if
there is nothing to take. -/
def takeName (cs : List Char) : Option (Option (List Char) × List Char) :=
  match cs with
  | '#' :: _ => some (none, cs)
  | '\x27' :: more =>
      let (name, rest) := more.span (· ≠ singleQuote)
      if name.isEmpty || rest.isEmpty then none else some (some name, rest.drop 1)
  | _ =>
      let (name, rest) := cs.span isNameChar
      if name.isEmpty then none else some (some name, rest)

/-- The text up to a closing quote, and the text behind it.  A quote behind a
backslash closes only if no other one does; `last` is such a one, if there was. -/
def takeQuoted (q : Char) (last : Option (List Char × List Char)) (acc : List Char) :
    List Char → Option (List Char × List Char)
  | [] => last
  | c :: cs =>
      if c = q then
        if acc.head? = some backslash then takeQuoted q (some (acc.reverse, cs)) (c :: acc) cs
        else some (acc.reverse, cs)
      else takeQuoted q last (c :: acc) cs

/-- The character that an escape in single quotes stands for. -/
def singleEscape? (c : Char) : Option Char :=
  if c = backslash ∨ c = singleQuote then some c else none

/-- The character that an escape in double quotes stands for. -/
def doubleEscape? (c : Char) : Option Char :=
  if c = backslash ∨ c = singleQuote ∨ c = doubleQuote then some c
  else if c = 'a' then some '\x07'
  else if c = 'b' then some '\x08'
  else if c = 'f' then some '\x0c'
  else if c = 'n' then some '\n'
  else if c = 'r' then some '\r'
  else if c = 't' then some '\t'
  else if c = 'v' then some '\x0b'
  else none

/-- Undoes escapes; a backslash before any other character stays. -/
def unescape (escape? : Char → Option Char) : List Char → List Char
  | a :: b :: cs =>
      if a = backslash then
        match escape? b with
        | some c => c :: unescape escape? cs
        | none => a :: unescape escape? (b :: cs)
      else a :: unescape escape? (b :: cs)
  | cs => cs

/-- The text before a comment: up to the first `#` behind a blank. -/
def beforeComment (previous : Char) : List Char → List Char
  | [] => []
  | c :: cs => if c = '#' && isBlank previous then [] else c :: beforeComment c cs

/-- Takes a value from behind the sign that begins it.  Fails if a quote is not closed. -/
def takeValue (behind : List Char) : Option (List Char × List Char) :=
  let cs := behind.dropWhile isInnerBlank
  match cs with
  | '\x27' :: more =>
      (takeQuoted singleQuote none [] more).map fun r => (unescape singleEscape? r.1, r.2)
  | '\x22' :: more =>
      (takeQuoted doubleQuote none [] more).map fun r => (unescape doubleEscape? r.1, r.2)
  | _ =>
      let (line, rest) := cs.span isInLine
      let previous := if cs.length < behind.length then ' ' else '='
      some (trimEnd (beforeComment previous line), rest)

/-- Leaves out blanks and a comment. -/
def skipComment (cs : List Char) : List Char :=
  let rest := cs.dropWhile isInnerBlank
  if rest.head? = some '#' then rest.dropWhile isInLine else rest

/-- Leaves out the rest of a line and its end. -/
def skipLine (cs : List Char) : List Char := (cs.dropWhile isInLine).drop 1

/-- Takes a statement that does not begin with a blank.  Fails with the text from
which the line is to be skipped. -/
def takeStatement (cs : List Char) : Except (List Char) (Statement × List Char) :=
  let cs := skipExport cs
  match takeName cs with
  | none => .error cs
  | some (name, rest) =>
      let rest := rest.dropWhile isInnerBlank
      let valued : Option (Option (List Char) × List Char) :=
        match rest with
        | '=' :: more => (takeValue more).map fun r => (some r.1, r.2)
        | _ => some (none, rest)
      match valued with
      | none => .error ((rest.drop 1).dropWhile isInnerBlank)
      | some (value, rest) =>
          let behind := skipComment rest
          match behind with
          | c :: more =>
              if isInLine c then .error behind
              else .ok (name.elim .nothing (.binding · value), more)
          | [] => .ok (name.elim .nothing (.binding · value), [])

/-- The number of line ends in what was taken off a text. -/
def linesTaken (cs rest : List Char) : Nat := (cs.take (cs.length - rest.length)).count '\n'

/-- The statements of a text from the given line on.  Every statement takes at least
one character, so the length of the text bounds their number. -/
def statementsFrom : Nat → Nat → List Char → List Statement
  | 0, _, _ => []
  | _ + 1, _, [] => []
  | fuel + 1, line, cs =>
      let start := cs.dropWhile isBlank
      if start.isEmpty then [.nothing]
      else
        match takeStatement start with
        | .ok (statement, rest) =>
            statement :: statementsFrom fuel (line + linesTaken cs rest) rest
        | .error stuck =>
            let rest := skipLine stuck
            .malformed line :: statementsFrom fuel (line + linesTaken cs rest) rest

/-- The statements of a text. -/
def statements (cs : List Char) : List Statement :=
  let cs := unifyLines cs
  statementsFrom (cs.length + 1) 1 cs

/-- The lines that could not be read. -/
def malformedLines (ss : List Statement) : List Nat :=
  ss.filterMap fun
    | .malformed line => some line
    | _ => none

/-- The message for a line that could not be read. -/
def complaint (line : Nat) : String :=
  "python-dotenv could not parse statement starting at line " ++ toString line

/-- A part of a value: text as it is, or a reference to a name, perhaps with a text to
stand in for it. -/
inductive Atom where
  | literal (c : Char)
  | reference (name : List Char) (fallback : List Char)
  deriving Repr, DecidableEq

/-- Takes a reference from behind its dollar sign. -/
def takeReference (cs : List Char) : Option (Atom × List Char) :=
  match cs with
  | '\x7b' :: more =>
      let (name, rest) := more.span fun c => c ≠ '\x7d' && c ≠ ':'
      match rest with
      | '\x7d' :: rest => some (.reference name [], rest)
      | ':' :: '-' :: more =>
          let (fallback, rest) := more.span (· ≠ '\x7d')
          if rest.isEmpty then none else some (.reference name fallback, rest.drop 1)
      | _ => none
  | _ => none

/-- The parts of a value; the length of the value bounds their number. -/
def atomsFrom : Nat → List Char → List Atom
  | 0, _ => []
  | _ + 1, [] => []
  | fuel + 1, c :: cs =>
      if c = '$' then
        match takeReference cs with
        | some (atom, rest) => atom :: atomsFrom fuel rest
        | none => .literal c :: atomsFrom fuel cs
      else .literal c :: atomsFrom fuel cs

/-- The parts of a value. -/
def atoms (cs : List Char) : List Atom := atomsFrom cs.length cs

/-- Values by name. -/
abbrev Bindings := List (List Char × Option (List Char))

/-- Sets the value of a name, in its place if it is there. -/
def put (bs : Bindings) (name : List Char) (value : Option (List Char)) : Bindings :=
  if bs.any fun b => b.1 == name then bs.map fun b => if b.1 == name then (name, value) else b
  else bs ++ [(name, value)]

/-- The text of a part.  A name given before goes before a variable. -/
def Atom.text (world : List (List Char × List Char)) (bs : Bindings) : Atom → List Char
  | .literal c => [c]
  | .reference name fallback =>
      match bs.find? fun b => b.1 == name with
      | some (_, value) => value.getD []
      | none =>
          match world.find? fun v => v.1 == name with
          | some (_, value) => value
          | none => fallback

/-- Takes one statement into account. -/
def bind (world : List (List Char × List Char)) (bs : Bindings) : Statement → Bindings
  | .binding name value =>
      put bs name (value.map fun v => (atoms v).flatMap (Atom.text world bs))
  | _ => bs

/-- The values that statements give, where later ones go before earlier ones. -/
def bindings (world : List (List Char × List Char)) (ss : List Statement) : Bindings :=
  ss.foldl (bind world) []

end EnvFile
end RouteProbe
