import RouteProbe.Value

/-!
# Templates

A template is a text with directives: a percent sign, then in this order a name
in parentheses, flags, a width, a precision, a size letter that means nothing,
and the letter of the conversion.  Messages of the log and the help texts of the
command line are templates.

This module holds the parts of a directive, the arguments that directives take
from, and everything that can be wrong with a template.
-/

namespace RouteProbe

/-- What can be wrong with a template or with its arguments. -/
inductive TemplateError where
  | incomplete
  | incompleteName
  | namesNeedMembers
  | missingName (name : String)
  | tooFewArguments
  | tooManyArguments
  | starNeedsInteger
  | widthTooBig
  | precisionTooBig
  | unknownConversion (c : Char) (index : Nat)
  | integerNeeded (conversion : Char) (got : String)
  | numberNeeded (conversion : Char) (got : String)
  | realNeeded (got : String)
  | characterNeeded
  | characterOutOfRange
  | nanHasNoInteger
  | infinityHasNoInteger
  | integerTooLarge
  deriving Repr, DecidableEq

namespace TemplateError

/-- The message of an error. -/
def message : TemplateError → String
  | .incomplete => "incomplete format"
  | .incompleteName => "incomplete format key"
  | .namesNeedMembers => "format requires a mapping"
  | .missingName k => String.ofList (Text.quoted k.toList)
  | .tooFewArguments => "not enough arguments for format string"
  | .tooManyArguments => "not all arguments converted during string formatting"
  | .starNeedsInteger => "* wants int"
  | .widthTooBig => "width too big"
  | .precisionTooBig => "precision too big"
  | .unknownConversion c i =>
      let shown := if 31 ≤ c.toNat ∧ c.toNat ≤ 126 then c else '?'
      "unsupported format character '" ++ shown.toString ++ "' (0x" ++
        String.ofList (Nat.toDigits 16 c.toNat) ++ ") at index " ++ toString i
  | .integerNeeded c got =>
      "%" ++ c.toString ++ " format: an integer is required, not " ++ got
  | .numberNeeded c got =>
      "%" ++ c.toString ++ " format: a real number is required, not " ++ got
  | .realNeeded got => "must be real number, not " ++ got
  | .characterNeeded => "%c requires int or char"
  | .characterOutOfRange => "%c arg not in range(0x110000)"
  | .nanHasNoInteger => "cannot convert float NaN to integer"
  | .infinityHasNoInteger => "cannot convert float infinity to integer"
  | .integerTooLarge => "int too large to convert to float"

end TemplateError

namespace Template

/-- What directives take from: members for those with a name, and values in
order for the others.  Only arguments given in order have to be used up. -/
structure Arguments where
  members : Option Members
  pending : List Value
  mustUseAll : Bool
  deriving Repr

namespace Arguments

/-- Values in order. -/
def ofList (vs : List Value) : Arguments := ⟨none, vs, true⟩

/-- Members by name; a directive without a name takes them all as one value. -/
def ofMembers (ms : Members) : Arguments := ⟨some ms, [.object ms], false⟩

/-- The arguments of a message: one object that is not empty serves its members,
all else is taken in order. -/
def ofMessage : List Value → Arguments
  | [.object (m :: ms)] => ofMembers (m :: ms)
  | vs => ofList vs

/-- The next value in order. -/
def next (a : Arguments) : Except TemplateError (Value × Arguments) :=
  match a.pending with
  | v :: vs => .ok (v, { a with pending := vs })
  | [] => .error .tooFewArguments

/-- Makes the member of a name the next value. -/
def select (a : Arguments) (name : String) : Except TemplateError Arguments :=
  match a.members with
  | none => .error .namesNeedMembers
  | some ms =>
      match ms.get? name with
      | some v => .ok ⟨some ms, [v], false⟩
      | none => .error (.missingName name)

end Arguments

/-- The flags of a directive. -/
structure Flags where
  left : Bool
  sign : Bool
  blank : Bool
  alternate : Bool
  zero : Bool
  deriving Repr, DecidableEq

/-- No flag. -/
def Flags.none : Flags := ⟨false, false, false, false, false⟩

/-- Adds the flag of a character. -/
def Flags.add? (f : Flags) (c : Char) : Option Flags :=
  if c = '-' then some { f with left := true }
  else if c = '+' then some { f with sign := true }
  else if c = ' ' then some { f with blank := true }
  else if c = '#' then some { f with alternate := true }
  else if c = '0' then some { f with zero := true }
  else Option.none

/-- How a directive lays out its value. -/
structure Layout where
  flags : Flags
  width : Nat
  precision : Option Nat
  deriving Repr, DecidableEq

end Template
end RouteProbe
