import RouteProbe.Cli.Help

/-!
# What a command line comes to

A command line that can be read is a request.  One that asks for help ends with 0 once the help has
been written, and a wrong one ends with 2 and a complaint.  The help cannot always be written,
because the default host stands in a template.
-/

namespace RouteProbe
namespace Cli

/-- What a command line comes to: a request, an end with a code and what is written to standard
output and to standard error, or a help that cannot be written. -/
inductive Outcome where
  | asked (r : Request)
  | exit (code : Nat) (out err : List Char)
  | failed (e : TemplateError)
  deriving Repr, DecidableEq

/-- Reads a command line; lines have a width, and there is a host that is asked if none is given. -/
def outcome (width : Int) (defaultHost : List Char) (as : List Argument) : Outcome :=
  match request defaultHost as with
  | .ok r => .asked r
  | .error .help =>
      match help width defaultHost with
      | .ok text => .exit 0 text []
      | .error e => .failed e
  | .error (.wrong e) => .exit 2 [] (complaint width e)

end Cli
end RouteProbe
