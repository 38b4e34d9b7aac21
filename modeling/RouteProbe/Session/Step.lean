import RouteProbe.Log.Description
import RouteProbe.Session.Command

/-!
# Steps of a session

A session goes on in steps: the surroundings change, settings are loaded, kept or
forgotten, the log is configured and used, queries are made and the command is run.
Each step has an answer, and what lasts of it is in the session after it.
-/

namespace RouteProbe
namespace Session

/-- A step of a session. -/
inductive Step where
  | setVariables (changes : List (String × Option String))
  | setFile (text : Option String)
  | settings (given : Members)
  | keptSettings
  | forget
  | describe (given : Members)
  | configure (given : Members)
  | event (call : Log.Call)
  | record (logger : Log.Name) (weight : Int) (template : Value) (arguments : List Value)
  | loggers (names : List Log.Name)
  | bind (ms : Members)
  | clear
  | context
  | query (host path : List Char) (script : Network.Script)
  | command (arguments : List Cli.Argument) (script : Network.Script)

/-- What there is to see of a logger. -/
structure LoggerState where
  level : Int
  effective : Int
  propagate : Bool
  handlers : Nat
  deriving Repr, DecidableEq

/-- The state of a logger. -/
def loggerState (t : Log.Tree) (n : Log.Name) : LoggerState :=
  if n.isRoot then
    ⟨t.root.level, t.effectiveLevel n, t.root.propagate, if t.root.handler.isSome then 1 else 0⟩
  else
    let l := (t.get? n).getD (.fresh none)
    ⟨l.level, t.effectiveLevel n, l.propagate, 0⟩

/-- The answer to a step. -/
inductive Answer where
  | done
  | settings (result : Except Settings.LoadError Settings) (written : Log.Written)
  | kept (result : Except Settings.LoadError Settings) (same : Bool) (written : Log.Written)
  | described (result : Except Settings.LoadError Members)
  | configured (result : Except Settings.LoadError Unit)
  | logged (result : Except Log.CallError Unit) (written : Log.Written)
  | loggers (states : List (Log.Name × LoggerState))
  | context (ms : Members)
  | queried (result : Except QueryFailure (List UInt8)) (written : Log.Written)
      (trace : Network.Trace)
  | ran (ending : Ending) (out : List UInt8) (err : List Char) (trace : Network.Trace)

/-- Changes variables of the environment. -/
def setVariables (s : Session) (changes : List (String × Option String)) : Session :=
  { s with surroundings := changes.foldl (fun w c => w.set c.1 c.2) s.surroundings }

/-- Configures the log as settings ask, with what is given outright. -/
def configure (s : Session) (stamp : List Char) (given : Members) :
    Session × Except Settings.LoadError Unit :=
  let loading := s.load stamp given
  let s := loading.session
  match loading.result with
  | .ok settings => ({ s with log := s.log.configure settings }, .ok ())
  | .error e => (s, .error e)

/-- Asks for the settings that are kept, and sees whether they are those of the last
time. -/
def serve (s : Session) (stamp : List Char) : Session × Answer :=
  let loading := s.keptSettings stamp
  let s' := loading.session
  match loading.result, s'.kept with
  | .ok settings, some k =>
      ({ s' with served := some k.load },
        .kept (.ok settings) (s.served = some k.load) loading.written)
  | result, _ => (s', .kept result false loading.written)

/-- Sees the loggers of some names, which exist from then on. -/
def seeLoggers (s : Session) (names : List Log.Name) : Session × Answer :=
  let tree := names.foldl Log.Tree.use s.log.tree
  ({ s with log := { s.log with tree } },
    .loggers (names.map fun n => (n, loggerState tree n)))

/-- Takes one step, with queries going through a client. -/
def step (s : Session) (stamp : List Char) (t : Step) (client : Client := .plain) :
    Session × Answer :=
  match t with
  | .setVariables changes => (s.setVariables changes, .done)
  | .setFile text => ({ s with surroundings := { s.surroundings with file := text } }, .done)
  | .settings given =>
      let loading := s.load stamp given
      (loading.session, .settings loading.result loading.written)
  | .keptSettings => s.serve stamp
  | .forget => (s.forget, .done)
  | .describe given =>
      let loading := s.load stamp given
      (loading.session, .described (loading.result.map fun t => (Log.Plan.ofSettings t).describe))
  | .configure given =>
      let (s, result) := s.configure stamp given
      (s, .configured result)
  | .event call =>
      let said := s.event stamp call
      (said.session, .logged said.result said.written)
  | .record logger weight template arguments =>
      let (log, written) := s.log.record stamp logger weight template arguments
      ({ s with log }, .logged (.ok ()) written)
  | .loggers names => s.seeLoggers names
  | .bind ms =>
      let log := s.log.bind ms
      ({ s with log }, .context log.context)
  | .clear => ({ s with log := s.log.clear }, .context [])
  | .context => (s, .context s.log.context)
  | .query host path script =>
      let q := s.query stamp host path script client
      (q.session, .queried q.result q.written q.trace)
  | .command arguments script =>
      let r := s.run stamp arguments script client
      (r.session, .ran r.ending r.out r.err r.trace)

end Session
end RouteProbe
