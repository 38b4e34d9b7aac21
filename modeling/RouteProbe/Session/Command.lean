import RouteProbe.Cli.Help
import RouteProbe.Session.Basic
import RouteProbe.Text.Utf8

/-!
# The command

The command queries one path and writes the body to standard output.  It loads the
settings, configures the log, reads its arguments, binds the host for all events, and
makes the query.  It ends with 0 if there is a body, and with 1 if the collector or
the network has failed it; a wrong command line ends it with 2, and a body that cannot
be decoded is an error that it leaves to its caller.
-/

namespace RouteProbe
namespace Session

open Text

/-- How a run of the command ends. -/
inductive Ending where
  | code (n : Nat)
  | exit (n : Nat)
  | settings (e : Settings.LoadError)
  | help (e : TemplateError)
  | query (e : QueryFailure)

/-- A run of the command: the session after it, how it ended, what it wrote to standard
output and to standard error, and what it did on the network. -/
structure Run where
  session : Session
  ending : Ending
  out : List UInt8
  err : List Char
  trace : Network.Trace

/-- The name of the member under which the host is bound. -/
def hostKey : String := "collector_host"

/-- The host as a value. -/
def hostValue : Cli.HostChoice → Value
  | .named cs => .text (String.ofList cs)
  | .nothing => .list []

/-- The host as text. -/
def hostText (h : Cli.HostChoice) : List Char := (hostValue h).plainText

/-- The name of the variable that has the width of the terminal. -/
def columnsName : String := "COLUMNS"

/-- The width of lines on the terminal. -/
def lineWidth (s : Session) : Int := Cli.lineWidth (s.surroundings.get? columnsName)

/-- What the command says about a failed query, if it is one that it takes care of. -/
def report (path : List Char) : QueryFailure → Option (Log.Level × String × Members)
  | .query (.status e) =>
      some (.debug, "Probe failed", [("error", .text (String.ofList e.message))])
  | .query (.url e) =>
      some (.debug, "Probe failed", [("error", .text (String.ofList e.message))])
  | .query (.transport e) =>
      some (.error, "Collector unreachable",
        [("path", .text (String.ofList path)), ("error", .text (String.ofList e.shown))])
  | _ => none

/-- A run that has ended: what the log wrote to standard output stands before the body, if
there is one. -/
def Run.ended (s : Session) (ending : Ending) (body : List UInt8) (written : Log.Written)
    (trace : Network.Trace) : Run :=
  ⟨s, ending, utf8 written.out ++ body, written.err, trace⟩

/-- Makes the query of a command line, and ends the run; `before` is what the log has
written before. -/
def runRequest (s : Session) (stamp : List Char) (before : Log.Written) (r : Cli.Request)
    (script : Network.Script) (client : Client := .plain) : Run :=
  let s := { s with log := s.log.bind [(hostKey, hostValue r.host)] }
  let q := s.query stamp (hostText r.host) r.path script client
  let written := before ++ q.written
  match q.result with
  | .ok body => .ended q.session (.code 0) body written q.trace
  | .error failure =>
      match report r.path failure with
      | none => .ended q.session (.query failure) [] written q.trace
      | some (level, text, ms) =>
          let said := q.session.event stamp (eventCall commandLogger level text.toList ms)
          let written := written ++ said.written
          match said.result with
          | .ok () => .ended said.session (.code 1) [] written q.trace
          | .error e => .ended said.session (.query (.saying e)) [] written q.trace

/-- Runs the command (`main`). -/
def run (s : Session) (stamp : List Char) (arguments : List Cli.Argument)
    (script : Network.Script) (client : Client := .plain) : Run :=
  let loading := s.keptSettings stamp
  let s := loading.session
  let written := loading.written
  match loading.result with
  | .error e => .ended s (.settings e) [] written .none
  | .ok settings =>
      let s := { s with log := s.log.configure settings }
      let host := settings.collectorHost.toList
      match Cli.request host arguments with
      | .error .help =>
          match Cli.help s.lineWidth host with
          | .ok cs => .ended s (.exit 0) (utf8 cs) written .none
          | .error e => .ended s (.help e) [] written .none
      | .error (.wrong e) =>
          let complaint : Log.Written := ⟨[], Cli.complaint s.lineWidth e⟩
          .ended s (.exit 2) [] (written ++ complaint) .none
      | .ok r => s.runRequest stamp written r script client

end Session
end RouteProbe
