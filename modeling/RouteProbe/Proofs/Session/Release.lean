import RouteProbe.Proofs.Query.Release
import RouteProbe.Session.Basic

/-!
# Connections of a session

A query in a session is given up before it starts if the session cannot log what is asked for, and
is carried out to its end if only a later notice cannot be logged.  Either way the connection is
released, as it is when the query is made by itself (`Session.isReleased_query`).

Nothing is assumed of the session: its log may be in any state, so every notice may fail.
-/

namespace RouteProbe
namespace Session

open Network

variable {s : Session}

/-- A query in a session does what it does by itself, or nothing. -/
theorem trace_query (s : Session) (stamp host path : List Char) (script : Script) :
    (s.query stamp host path script).trace = .none ∨
      (s.query stamp host path script).trace = (Query.run host path script).trace := by
  rw [query]
  dsimp only
  split
  · exact .inl rfl
  · -- what is said later does not undo what was done
    split
    · exact .inr rfl
    · exact .inr rfl

theorem isReleased_trace_query (s : Session) (stamp host path : List Char) (script : Script) :
    (s.query stamp host path script).trace.IsReleased script := by
  rcases s.trace_query stamp host path script with htrace | htrace
  · rw [htrace]
    exact isReleased_none script
  · rw [htrace]
    exact Query.isReleased_run host path script

/-- **A query releases its connection on every way out**: one that is made by itself, and one in
a session whose log may fail.  It tries one connection, to the place in its URL, if there is such
a URL, and none if there is not.  The exchange itself releases that connection, before the client
leaves: it has closed it, or it has kept it, for another one. -/
theorem isReleased_query (s : Session) (stamp host path : List Char) (script : Script) :
    (Query.run host path script).trace.IsReleased script ∧
      (s.query stamp host path script).trace.IsReleased script ∧
      (Query.run host path script).trace.connects =
        (match Query.askedUrl (Route.url host path) with
        | .ok u => [Query.placeOf u]
        | .error _ => []) ∧
      ∀ u, Query.askedUrl (Route.url host path) = .ok u →
        (Query.askOver (.made (Query.placeOf u) script.reply) script.send (Route.url host path)
          u).connection.IsReleased (Query.placeOf u) := by
  refine ⟨Query.isReleased_run host path script, s.isReleased_trace_query stamp host path script,
    ?_, fun u _ => ?_⟩
  · cases hasked : Query.askedUrl (Route.url host path) with
    | ok u => exact Query.connects_run_of_askedUrl hasked script
    | error e =>
        have hcourse := Query.course_run host path script
        rw [hasked] at hcourse
        rw [hcourse]
        rfl
  · have hmade := Http.Connection.inUse_made (Query.placeOf u) script.reply
    exact Query.isReleased_askOver hmade script.send _ u

end Session
end RouteProbe
