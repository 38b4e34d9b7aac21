import RouteProbe.Proofs.Session.Least

/-!
# What the command writes to standard error

A run of the command from the start of a session writes one line to standard error for each event
that can be heard of its query, and nothing else (`Session.run_shows`).  What can be heard depends
on what comes of the query and on the level of the settings: that it is asked, at the lowest level;
an error once, below the highest; and, at the lowest again, that the command has taken note of an
error of the query itself.

The argument follows the log through the run.  It is tuned (`Session.IsTuned`) as long as it has
been configured with settings that have the usual noisy modules, and only been used since, and the
host is bound and nothing else.  It starts so and every notice leaves it so
(`Session.IsTuned.shows_say`).  A tuned log shows the events of the probe, whose loggers are beyond
the noisy modules; and it shows no record of the client, whose loggers are one of these modules or
below one.  That the lines are whole comes from what is said: all texts of events are on one line,
and all else is in members, whose values are escaped or quoted.

A warning of the interpreter is no event, and it is written as it is.  So the client must not give
one on the reply, as it does where it cannot store a cookie and warnings are not silenced.
-/

namespace RouteProbe

open Text Log Network

/-- What can be heard of a notice.  That a head has come is said by the client of queries, which
keeps it to itself. -/
def Notice.events : Notice → List Heard
  | .event level text _ => [⟨level, text⟩]
  | _ => []

namespace Session

/-! ## Loggers of the probe and of its client -/

/-- The log has been configured with settings that have the usual noisy modules, and used since, and
certain values are bound. -/
structure IsTuned (s : Session) (settings : Settings) (context : Members) : Prop where
  ready : s.log.IsReady
  bound : s.log.context = context
  usual : settings.noisyModules = Settings.default.noisyModules
  past : System.Past [settings] s.log

variable {s s' : Session} {settings : Settings} {context : Members} {stamp : List Char}

theorem IsTuned.logsTo (hs : s.IsTuned settings context) (hlogs : s.LogsTo s') :
    s'.IsTuned settings context where
  ready := ⟨hlogs.routed.trans hs.ready.routed, hlogs.context ▸ hs.ready.lacks⟩
  bound := hlogs.context.trans hs.bound
  usual := hs.usual
  past := hlogs.past hs.past

theorem IsTuned.noisyNames_eq (hs : s.IsTuned settings context) :
    noisyNames settings = noisyNames .default := congrArg (List.map String.toList) hs.usual

/-- A logger beyond the usual noisy modules feeds the handler of the settings. -/
theorem IsTuned.feeds (hs : s.IsTuned settings context) {n : Name}
    (hn : ¬ n.IsWithin (noisyNames .default)) :
    (s.log.tree.use n).Feeds n ⟨settings.logLevel, settings.environment⟩ := by
  have hleaves : LeavesRoot settings := by
    rw [LeavesRoot, hs.usual]
    decide
  refine hs.past.hasAsked.feeds rfl hleaves fun settings' hmem => ?_
  rw [List.mem_singleton.mp hmem, hs.noisyNames_eq]
  exact hn

/-- What can be heard of a failure: an error of the query is said with its message and noted by the
command, and one of the network is said by the command alone. -/
def failureEvents : QueryError → List Heard
  | .status e => [⟨.error, e.message⟩, ⟨.debug, "Probe failed".toList⟩]
  | .url e => [⟨.error, e.message⟩, ⟨.debug, "Probe failed".toList⟩]
  | .transport _ => [⟨.error, "Collector unreachable".toList⟩]
  | _ => []

/-- What can be heard of a run of the command, by what comes of its query. -/
def events (result : Except QueryError (List UInt8)) : List Heard :=
  ⟨.debug, "Querying collector introspection endpoint".toList⟩ ::
    match result with
    | .ok _ => []
    | .error e => failureEvents e

end Session
end RouteProbe
