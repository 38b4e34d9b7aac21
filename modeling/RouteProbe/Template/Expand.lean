import RouteProbe.Template.Convert

/-!
# Expanding a template

A template is read from left to right and the first thing wrong with it is the
error, so the parts of a directive are checked in the order in which they stand.
Everything outside directives is copied.
-/

namespace RouteProbe
namespace Template

open Text

/-- A place in a template: the index of the next character and the characters
from there on. -/
structure Place where
  index : Nat
  rest : List Char
  deriving Repr, DecidableEq

/-- The next character and the place after it. -/
def Place.next (p : Place) : Except TemplateError (Char × Place) :=
  match p.rest with
  | c :: cs => .ok (c, ⟨p.index + 1, cs⟩)
  | [] => .error .incomplete

/-- Reads a name up to the parenthesis that closes it; `depth` counts those open
inside. -/
def readName (depth : Nat) (acc : List Char) (index : Nat) :
    List Char → Except TemplateError (String × Place)
  | [] => .error .incompleteName
  | c :: cs =>
      if c = ')' then
        if depth = 0 then .ok (String.ofList acc.reverse, ⟨index + 1, cs⟩)
        else readName (depth - 1) (c :: acc) (index + 1) cs
      else if c = '(' then readName (depth + 1) (c :: acc) (index + 1) cs
      else readName depth (c :: acc) (index + 1) cs

/-- Reads flags. -/
def readFlags (f : Flags) (index : Nat) : List Char → Flags × Place
  | [] => (f, ⟨index, []⟩)
  | c :: cs =>
      match f.add? c with
      | some f => readFlags f (index + 1) cs
      | none => (f, ⟨index, c :: cs⟩)

/-- Reads digits as a number. -/
def readCount (p : Place) : Nat × Place :=
  let ds := p.rest.takeWhile isAsciiDigit
  (decimalNumber ds, ⟨p.index + ds.length, p.rest.dropWhile isAsciiDigit⟩)

/-- The greatest width. -/
def maxWidth : Nat := Nat.pow 2 63 - 1

/-- The greatest precision. -/
def maxPrecision : Nat := Nat.pow 2 31 - 1

/-- Takes an integer from the arguments for a star. -/
def starCount (a : Arguments) : Except TemplateError (Int × Arguments) :=
  match a.next with
  | .error e => .error e
  | .ok (.int n, a) => .ok (n, a)
  | .ok (.flag b, a) => .ok (if b then 1 else 0, a)
  | .ok (_, _) => .error .starNeedsInteger

/-- Reads a width: digits, or a star for an argument, which a minus turns into
one that fills on the right. -/
def readWidth (a : Arguments) (f : Flags) (p : Place) :
    Except TemplateError (Nat × Flags × Arguments × Place) :=
  match p.rest with
  | '*' :: cs =>
      match starCount a with
      | .error e => .error e
      | .ok (n, a) =>
          .ok (n.natAbs, if n < 0 then { f with left := true } else f, a, ⟨p.index + 1, cs⟩)
  | _ =>
      let (n, p) := readCount p
      if maxWidth < n then .error .widthTooBig else .ok (n, f, a, p)

/-- Reads a precision, if a point comes next. -/
def readPrecision (a : Arguments) (p : Place) :
    Except TemplateError (Option Nat × Arguments × Place) :=
  match p.rest with
  | '.' :: '*' :: cs =>
      match starCount a with
      | .error e => .error e
      | .ok (n, a) => .ok (some n.toNat, a, ⟨p.index + 2, cs⟩)
  | '.' :: cs =>
      let (n, p) := readCount ⟨p.index + 1, cs⟩
      if maxPrecision < n then .error .precisionTooBig else .ok (some n, a, p)
  | _ => .ok (none, a, p)

/-- Drops a size letter. -/
def skipSize (p : Place) : Place :=
  match p.rest with
  | c :: cs => if c = 'h' || c = 'l' || c = 'L' then ⟨p.index + 1, cs⟩ else p
  | [] => p

/-- Expands the directive whose percent sign has just been read, unless a second
one follows. -/
def conversion (a : Arguments) (p : Place) :
    Except TemplateError (List Char × Arguments × Place) := do
  let (a, p) ← match p.rest with
    | '(' :: cs => do
        if a.members.isNone then throw .namesNeedMembers
        let (name, p) ← readName 0 [] (p.index + 1) cs
        let a ← a.select name
        pure (a, p)
    | _ => pure (a, p)
  let (f, p) := readFlags .none p.index p.rest
  let (width, f, a, p) ← readWidth a f p
  let (precision, a, p) ← readPrecision a p
  let (letter, p) ← (skipSize p).next
  let (v, a) ← a.next
  let cs ← convert ⟨f, width, precision⟩ letter (p.index - 1) v
  pure (cs, a, p)

/-- Expands what a percent sign begins: two of them stand for one. -/
def directive (a : Arguments) (p : Place) :
    Except TemplateError (List Char × Arguments × Place) :=
  match p.rest with
  | '%' :: cs => .ok (['%'], a, ⟨p.index + 1, cs⟩)
  | _ => conversion a p

/-- Expands a template from a place on; `done` is what has been expanded, in
pieces, last first.  The count bounds the directives. -/
def expandFrom :
    Nat → List (List Char) → Arguments → Place → Except TemplateError (List Char)
  | 0, done, _, _ => .ok done.reverse.flatten
  | fuel + 1, done, a, p =>
      let plain := p.rest.takeWhile (· ≠ '%')
      match p.rest.dropWhile (· ≠ '%') with
      | [] =>
          if a.mustUseAll && !a.pending.isEmpty then .error .tooManyArguments
          else .ok (plain :: done).reverse.flatten
      | _ :: cs =>
          match directive a ⟨p.index + plain.length + 1, cs⟩ with
          | .error e => .error e
          | .ok (text, a, p) => expandFrom fuel (text :: plain :: done) a p

/-- Expands a template with its arguments. -/
def expand (template : List Char) (a : Arguments) : Except TemplateError (List Char) :=
  expandFrom (template.length + 1) [] a ⟨0, template⟩

end Template
end RouteProbe
