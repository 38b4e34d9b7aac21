import RouteProbe.Route
import RouteProbe.Text.Digit
import RouteProbe.Text.Quoted

/-!
# The arguments of the command

The command takes one path, which is optional, and an option for the host, which is
followed by its value or has it behind an equals sign, and an option for help.  A
long option may be cut short as long as it stays clear which one is meant.  After the
mark `--` no argument is an option.

Arguments are first read one by one, and then taken from left to right.  What cannot
be used is left over, and is reported only if nothing else is wrong.
-/

namespace RouteProbe
namespace Cli

open Text

/-- One argument. -/
abbrev Argument := List Char

/-- The options. -/
inductive Flag where
  | help
  | host
  deriving Repr, DecidableEq

namespace Flag

/-- The long name of an option. -/
def longName : Flag → Argument
  | .help => "--help".toList
  | .host => "--host".toList

/-- All options. -/
def all : List Flag := [.help, .host]

/-- How an option is named in a message. -/
def shownName : Flag → String
  | .help => "-h/--help"
  | .host => "--host"

end Flag

/-- The mark that ends the options. -/
def optionsEnd : Argument := ['-', '-']

/-- How an argument is read: as no option, as the mark that ends the options, as an
option, perhaps with a value attached, or as an option that there is not. -/
inductive Reading where
  | operand
  | optionsEnd
  | short (attached : Option (List Char))
  | long (flag : Flag) (attached : Option (List Char))
  | unknown
  deriving Repr, DecidableEq

/-- What is wrong with a command line. -/
inductive UsageError where
  | ambiguous (argument : Argument) (flags : List Flag)
  | missingValue (flag : Flag)
  | unusedValue (flag : Flag) (value : List Char)
  | unrecognized (arguments : List Argument)
  deriving Repr, DecidableEq

/-- The message of an error. -/
def UsageError.message : UsageError → List Char
  | .ambiguous a flags =>
      "ambiguous option: ".toList ++ a ++ " could match ".toList ++
        (", ".toList).intercalate (flags.map Flag.longName)
  | .missingValue flag => ("argument " ++ flag.shownName ++ ": expected one argument").toList
  | .unusedValue flag v =>
      ("argument " ++ flag.shownName ++ ": ignored explicit argument ").toList ++ quoted v
  | .unrecognized as => "unrecognized arguments: ".toList ++ [' '].intercalate as

/-- A negative number, which is no option: an integer, or a number with digits behind
its point.  One line end may follow it. -/
def isNegativeNumber (a : Argument) : Bool :=
  match a with
  | '-' :: cs =>
      let cs := if cs.getLast? = some '\n' then cs.dropLast else cs
      let rest := cs.dropWhile isDigit
      (rest.isEmpty && !cs.isEmpty) ||
        (match rest with
          | '.' :: more => !more.isEmpty && more.all isDigit
          | _ => false)
  | _ => false

/-- Splits an argument at its first equals sign. -/
def splitValue (a : Argument) : List Char × Option (List Char) :=
  match a.span (· ≠ '=') with
  | (name, _ :: value) => (name, some value)
  | (name, []) => (name, none)

/-- An argument that looks like an option but is none that there is. -/
def readOther (a : Argument) : Reading :=
  if isNegativeNumber a || a.contains ' ' then .operand else .unknown

/-- Reads one argument; the mark that ends the options is not one. -/
def readArgument (a : Argument) : Except UsageError Reading :=
  match a with
  | '-' :: '-' :: _ =>
      let (name, value) := splitValue a
      match Flag.all.find? fun f => f.longName == name with
      | some f => .ok (.long f value)
      | none =>
          match Flag.all.filter fun f => name.isPrefixOf f.longName with
          | [] => .ok (readOther a)
          | [f] => .ok (.long f value)
          | flags => .error (.ambiguous a flags)
  | '-' :: 'h' :: attached =>
      match splitValue a with
      | (['-', 'h'], some value) => .ok (.short (some value))
      | _ => .ok (.short (if attached.isEmpty then none else some attached))
  | '-' :: _ :: _ => .ok (readOther a)
  | _ => .ok .operand

/-- Reads the arguments, up to the mark that ends the options and beyond it. -/
def readAll : List Argument → Except UsageError (List (Argument × Reading))
  | [] => .ok []
  | a :: as =>
      if a = optionsEnd then
        .ok ((a, .optionsEnd) :: as.map fun b => (b, .operand))
      else
        match readArgument a with
        | .error e => .error e
        | .ok r =>
            match readAll as with
            | .error e => .error e
            | .ok rs => .ok ((a, r) :: rs)

/-- The host that is asked for: one by its text, or none at all, which is what the mark
`--` attached to the option comes to. -/
inductive HostChoice where
  | named (text : List Char)
  | nothing
  deriving Repr, DecidableEq

/-- The host that a value attached to the option asks for. -/
def HostChoice.ofAttached (value : List Char) : HostChoice :=
  if value = optionsEnd then .nothing else .named value

/-- What is known of a command line on the way: the host if it has been given, the path
once its place has been passed, and what is left over, last first. -/
structure Progress where
  host : Option HostChoice
  path : Option (Option (List Char))
  leftOver : List Argument
  deriving Repr, DecidableEq

/-- Nothing is known yet. -/
def Progress.start : Progress := ⟨none, none, []⟩

/-- Why taking arguments stops early. -/
inductive Stop where
  | help
  | wrong (e : UsageError)
  deriving Repr, DecidableEq

/-- Letters attached to the short option for help are options as well, as far as they
are the same. -/
def helpWith : List Char → Stop
  | [] => .help
  | 'h' :: cs => helpWith cs
  | cs => .wrong (.unusedValue .help cs)

/-- What the short option for help comes to. -/
def shortHelpStop : Option (List Char) → Stop
  | none => .help
  | some [] => .wrong (.unusedValue .help [])
  | some cs => helpWith cs

/-- Takes the arguments that have been read.  The first operand is the path, and a mark
that ends the options is dropped right before it and right behind it. -/
def take : Progress → List (Argument × Reading) → Except Stop Progress
  | p, [] => .ok p
  | p, (a, .unknown) :: more => take { p with leftOver := a :: p.leftOver } more
  | _, (_, .short attached) :: _ => .error (shortHelpStop attached)
  | _, (_, .long .help none) :: _ => .error .help
  | _, (_, .long .help (some value)) :: _ => .error (.wrong (.unusedValue .help value))
  | p, (_, .long .host (some value)) :: more =>
      take { p with host := some (.ofAttached value) } more
  | p, (_, .long .host none) :: (a, .operand) :: more =>
      take { p with host := some (.named a) } more
  | _, (_, .long .host none) :: _ => .error (.wrong (.missingValue .host))
  | p, (a, .operand) :: (b, .optionsEnd) :: more =>
      if p.path.isNone then take { p with path := some (some a) } more
      else take { p with leftOver := b :: a :: p.leftOver } more
  | p, (a, .operand) :: more =>
      if p.path.isNone then take { p with path := some (some a) } more
      else take { p with leftOver := a :: p.leftOver } more
  | p, (a, .optionsEnd) :: (b, .operand) :: more =>
      if p.path.isNone then take { p with path := some (some b) } more
      else take { p with leftOver := b :: a :: p.leftOver } more
  | p, (a, .optionsEnd) :: more =>
      if p.path.isNone then take { p with path := some none } more
      else take { p with leftOver := a :: p.leftOver } more

/-- What a command line asks for: a path on a host. -/
structure Request where
  host : HostChoice
  path : List Char
  deriving Repr, DecidableEq

/-- The request of a command line, with the host that is asked if none is given
(`build_parser`). -/
def request (defaultHost : List Char) (as : List Argument) : Except Stop Request := do
  let readings ← (readAll as).mapError Stop.wrong
  let p ← take .start readings
  if p.leftOver.isEmpty then
    return ⟨p.host.getD (.named defaultHost), (p.path.getD none).getD Route.profile.toList⟩
  else throw (.wrong (.unrecognized p.leftOver.reverse))

end Cli
end RouteProbe
