import RouteProbe.Log.System
import RouteProbe.Query.Client
import RouteProbe.Settings.Load

/-!
# Sessions

A session is what lasts from one use of the probe to the next: the surroundings that
settings are loaded from, the settings that have been kept, and the log.  Settings are
kept from the first time that they can be loaded until they are forgotten.
-/

namespace RouteProbe

open Text

/-- Settings that are kept, with the number of the load that gave them. -/
structure Kept where
  settings : Settings
  load : Nat
  deriving Repr, DecidableEq

/-- What lasts from one use of the probe to the next.  `loads` counts the loads whose
settings were kept, and `served` is the one whose settings were asked for last. -/
structure Session where
  surroundings : Surroundings
  kept : Option Kept
  loads : Nat
  served : Option Nat
  log : Log.System
  deriving Repr

namespace Session

/-- A session at its start. -/
def start (w : Surroundings) : Session := ⟨w, none, 0, none, .initial⟩

/-- The logger of the reader of the file of settings. -/
def fileLogger : Log.Name := "dotenv.main".toList

/-- The logger of queries. -/
def queryLogger : Log.Name := "collector_probe.introspection".toList

/-- The logger of the command. -/
def commandLogger : Log.Name := "probe".toList

/-- The logger of the client that queries go through. -/
def clientLogger : Log.Name := "httpx".toList

/-- Logs a complaint about each line of the file of settings that could not be read. -/
def complain (s : Session) (stamp : List Char) : List Nat → Session × Log.Written
  | [] => (s, .none)
  | line :: lines =>
      let (log, written) := s.log.record stamp fileLogger Log.Level.warning.weight
        (.text (EnvFile.complaint line)) []
      let (s, more) := { s with log }.complain stamp lines
      (s, written ++ more)

/-- What came of loading settings in a session. -/
structure Loading where
  session : Session
  result : Except Settings.LoadError Settings
  written : Log.Written

/-- Loads settings, with what is given outright. -/
def load (s : Session) (stamp : List Char) (given : Members) : Loading :=
  let loaded := Settings.load given s.surroundings
  let (session, written) := s.complain stamp loaded.malformed
  ⟨session, loaded.result, written⟩

/-- The settings that are kept; if there are none, they are loaded and then kept
(`get_settings`). -/
def keptSettings (s : Session) (stamp : List Char) : Loading :=
  match s.kept with
  | some k => ⟨s, .ok k.settings, .none⟩
  | none =>
      let loading := s.load stamp []
      match loading.result with
      | .error _ => loading
      | .ok settings =>
          let session := loading.session
          { loading with
            session := { session with kept := some ⟨settings, session.loads⟩
                                      loads := session.loads + 1 } }

/-- Forgets the settings that are kept (`get_settings.cache_clear`). -/
def forget (s : Session) : Session := { s with kept := none }

/-- An event without arguments. -/
def eventCall (logger : Log.Name) (level : Log.Level) (text : List Char) (ms : Members) :
    Log.Call :=
  ⟨logger, level.name, .text (String.ofList text), [], ms, []⟩

/-- What came of saying something. -/
structure Said where
  session : Session
  result : Except Log.CallError Unit
  written : Log.Written

/-- Logs an event. -/
def event (s : Session) (stamp : List Char) (c : Log.Call) : Said :=
  let o := s.log.event stamp c
  ⟨{ s with log := o.system }, o.result, o.written⟩

/-- Logs a record without arguments. -/
def recordText (s : Session) (stamp : List Char) (logger : Log.Name) (level : Log.Level)
    (text : List Char) : Said :=
  let (log, written) := s.log.record stamp logger level.weight (.text (String.ofList text)) []
  ⟨{ s with log }, .ok (), written⟩

/-- Says what there is to say while a query runs: logs it, or, if it is a warning of the
interpreter, writes it to standard error as it is. -/
def say (s : Session) (stamp : List Char) : Notice → Said
  | .event level text ms => s.event stamp (eventCall queryLogger level text ms)
  | .exchanged text => s.recordText stamp clientLogger .info text
  | .traced logger text => s.recordText stamp logger .debug text
  | .warned text => ⟨s, .ok (), ⟨[], text⟩⟩

/-- Says notices in turn, up to the first that cannot be logged. -/
def sayAll (s : Session) (stamp : List Char) : List Notice → Said
  | [] => ⟨s, .ok (), .none⟩
  | n :: ns =>
      let said := s.say stamp n
      match said.result with
      | .error _ => said
      | .ok () =>
          let more := said.session.sayAll stamp ns
          { more with written := said.written ++ more.written }

/-- How a query in a session can fail: by itself, or because what it says cannot be
logged. -/
inductive QueryFailure where
  | query (e : QueryError)
  | saying (e : Log.CallError)
  deriving Repr, DecidableEq

/-- What came of a query in a session. -/
structure Queried where
  session : Session
  result : Except QueryFailure (List UInt8)
  written : Log.Written
  trace : Network.Trace

/-- Makes a query through a client and says what there is to say.  If the first notice cannot be
logged, nothing is asked. -/
def query (s : Session) (stamp : List Char) (host path : List Char) (script : Network.Script)
    (client : Client := .plain) : Queried :=
  let report := client s.surroundings.vars host path script
  let first := s.sayAll stamp (report.notices.take 1)
  match first.result with
  | .error e => ⟨first.session, .error (.saying e), first.written, .none⟩
  | .ok () =>
      let more := first.session.sayAll stamp (report.notices.drop 1)
      let written := first.written ++ more.written
      match more.result with
      | .error e => ⟨more.session, .error (.saying e), written, report.trace⟩
      | .ok () => ⟨more.session, report.result.mapError .query, written, report.trace⟩

end Session
end RouteProbe
