import RouteProbe.Cli.Grammar
import RouteProbe.Cli.Wrap
import RouteProbe.Template.Expand

/-!
# Usage and help

The usage is one line if it fits the terminal, and several otherwise: then the options
and the path are kept apart.  The help adds what the command does and a list of its
arguments, each with a text of its own to the right of its name or, if there is no
room, below it.

The text for the host is a template, in which the default host stands as it is; a
default host with a percent sign is a directive in it, and can be a wrong one.
-/

namespace RouteProbe
namespace Cli

open Text

/-- The name of the command. -/
def commandName : String := "collector-probe"

/-- What the command does. -/
def description : String := "Query a collector introspection route and print the body."

/-- The width of lines on a terminal, given what the environment says about it. -/
def lineWidth (columns : Option String) : Int :=
  let n := (columns.bind fun s => readInteger? s.toList).getD 0
  (if n ≤ 0 then 80 else n) - 2

/-- The options as they stand in the usage. -/
def usageOptions : List (List Char) := ["[-h]".toList, "[--host HOST]".toList]

/-- The path as it stands in the usage. -/
def usagePath : List Char := "[path]".toList

/-- What begins the usage. -/
def usageStart : List Char := "usage: ".toList

/-- Fills lines with parts; `used` are the columns in use before the first of them, and
each further line begins at `indent`. -/
def fillParts (width : Int) (indent : Nat) : Nat → List (List Char) → List (List Char) →
    List (List (List Char))
  | _, line, [] => if line.isEmpty then [] else [line.reverse]
  | used, line, part :: parts =>
      if !line.isEmpty && width < used + part.length then
        line.reverse :: fillParts width indent (indent + part.length + 1) [part] parts
      else fillParts width indent (used + part.length + 1) (part :: line) parts

/-- Lines of parts, indented. -/
def partLines (width : Int) (indent : Nat) (parts : List (List Char)) : List (List Char) :=
  (fillParts width indent indent [] parts).map fun line =>
    List.replicate indent ' ' ++ [' '].intercalate line

/-- The usage on several lines. -/
def usageLines (width : Int) : List (List Char) :=
  let name := commandName.toList
  let start := usageStart.length + name.length
  if 4 * (start : Int) ≤ 3 * width then
    let indent := start + 1
    let first := fillParts width indent usageStart.length [] (name :: usageOptions)
    let lines := first.map ([' '].intercalate ·)
    lines.take 1 ++ (lines.drop 1).map (List.replicate indent ' ' ++ ·) ++
      partLines width indent [usagePath]
  else
    let indent := usageStart.length
    let all := partLines width indent (usageOptions ++ [usagePath])
    name ::
      if all.length ≤ 1 then all
      else partLines width indent usageOptions ++ partLines width indent [usagePath]

/-- The usage, without a line end. -/
def usage (width : Int) : List Char :=
  let line := [' '].intercalate (commandName.toList :: usageOptions ++ [usagePath])
  if (usageStart.length + line.length : Int) ≤ width then usageStart ++ line
  else usageStart ++ ['\n'].intercalate (usageLines width)

/-- What is said about a wrong command line. -/
def complaint (width : Int) (e : UsageError) : List Char :=
  usage width ++ '\n' :: commandName.toList ++ ": error: ".toList ++ e.message ++ ['\n']

/-- The width of a text, which is never too narrow for words. -/
def textWidth (width : Int) : Nat := max width.toNat 11

/-- The column where the texts about the arguments begin. -/
def helpColumn (width : Int) : Nat :=
  let most := min 24 (max (width - 20) 4)
  min 15 most.toNat

/-- The indent of an argument. -/
def itemIndent : Nat := 2

/-- An argument and the text about it. -/
def item (width : Int) (name text : List Char) : List Char :=
  let column := helpColumn width
  let room := column - itemIndent - 2
  let head := List.replicate itemIndent ' ' ++ name
  let lines := wrap (textWidth (width - column)) (collapseBlanks text)
  let margin := List.replicate column ' '
  let below := lines.drop 1 |>.flatMap fun line => margin ++ line ++ ['\n']
  let first := lines.headD []
  if name.length ≤ room then
    head ++ List.replicate (room - name.length) ' ' ++ [' ', ' '] ++ first ++ '\n' :: below
  else head ++ '\n' :: margin ++ first ++ '\n' :: below
where
  /-- Runs of ASCII blanks as single spaces, with none at the ends. -/
  collapseBlanks (cs : List Char) : List Char :=
    let isAsciiBlank (c : Char) : Bool := c = ' ' || ('\t' ≤ c && c ≤ '\r')
    trim ([' '].intercalate
      ((cs.splitOnP isAsciiBlank).filter fun w => !w.isEmpty))

/-- The text about the path. -/
def pathHelp : List Char := ("route to query (default: " ++ Route.profile ++ ")").toList

/-- The text about the option for help. -/
def helpHelp : List Char := "show this help message and exit".toList

/-- The template of the text about the host. -/
def hostTemplate (defaultHost : List Char) : List Char :=
  "collector address (default: ".toList ++ defaultHost ++ [')']

/-- What directives in the text about the host can name. -/
def hostMembers (defaultHost : List Char) : Members :=
  [("option_strings", .list [.text "--host"]),
    ("dest", .text "host"),
    ("nargs", .null),
    ("const", .null),
    ("default", .text (String.ofList defaultHost)),
    ("type", .null),
    ("choices", .null),
    ("required", .flag false),
    ("help", .text (String.ofList (hostTemplate defaultHost))),
    ("metavar", .null),
    ("container", .null),
    ("prog", .text commandName)]

/-- The help. -/
def help (width : Int) (defaultHost : List Char) : Except TemplateError (List Char) := do
  let hostHelp ← Template.expand (hostTemplate defaultHost) (.ofMembers (hostMembers defaultHost))
  return usage width ++ "\n\n".toList ++
    ['\n'].intercalate (wrap (textWidth width) description.toList) ++
    "\n\npositional arguments:\n".toList ++ item width "path".toList pathHelp ++
    "\noptions:\n".toList ++ item width "-h, --help".toList helpHelp ++
    item width "--host HOST".toList hostHelp

end Cli
end RouteProbe
