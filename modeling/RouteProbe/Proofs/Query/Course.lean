import RouteProbe.Proofs.Http.Connection
import RouteProbe.Proofs.Query.Asked

/-!
# The course of a query

A query ends because its URL cannot be asked for, because the connection is not made or the request
does not go out in time, or with what its reply comes to.  What it comes to in each case depends on
the reply alone and not on the connection that carries it (`ask_of_reply`); and what it says follows
from what it comes to: of a status that is not the right one, or of a URL that is none, it speaks
once, and of nothing else (`complaints`).

Both need an argument.  The query speaks of a status where it sees it, with the reply still open,
and of a URL when all is over, so it must be shown that neither error comes from anywhere else.
-/

namespace RouteProbe
namespace Query

open Network Http

variable {url : List Char} {u : Url} {e : QueryError} {script : Script}

/-! ## What is said of errors -/

/-- What is said of an error. -/
def complaint : QueryError → List Notice
  | .status e => [statusComplaint e]
  | .url e => [urlComplaint e]
  | _ => []

/-- What is said of what came of a query. -/
def complaints : Except QueryError (List UInt8) → List Notice
  | .ok _ => []
  | .error e => complaint e

/-- A report, with what is said of its error at the end. -/
def report (result : Except QueryError (List UInt8)) (notices : List Notice)
    (trace : Trace) : Report :=
  ⟨result, notices ++ complaints result, trace⟩

/-- The error is that of a status. -/
def IsOfStatus : QueryError → Prop
  | .status _ => True
  | _ => False

theorem not_isOfStatus_targetError (url : List Char) (e : TargetError) :
    ¬ IsOfStatus (targetError url e) := by
  cases e <;> exact id

theorem not_isOfStatus_bodyError (e : BodyError) : ¬ IsOfStatus (bodyError e) := by
  cases e <;> exact id

/-- Asking for a URL never fails because of a status. -/
theorem not_isOfStatus_of_askedUrl (h : askedUrl url = .error e) : ¬ IsOfStatus e := by
  rcases eq_targetError_of_askedUrl h with rfl | ⟨failure, rfl⟩
  · exact id
  · exact not_isOfStatus_targetError url failure

/-- Neither does reading where a reply sends the reader on. -/
theorem not_isOfStatus_of_checkRedirect {head : Head} (h : checkRedirect url u head = .error e) :
    ¬ IsOfStatus e := by
  unfold checkRedirect at h
  split at h
  · split at h
    · obtain ⟨failure, -, rfl⟩ := mapError_eq_error_iff.mp h
      exact not_isOfStatus_targetError url failure
    · cases h
  · cases h

/-- What has been said of a result before all is over: something of a status, and of nothing
else. -/
def saidBefore : Except QueryError (List UInt8) → List Notice
  | .error (.status e) => [statusComplaint e]
  | _ => []

theorem saidBefore_of_not_isOfStatus (h : ¬ IsOfStatus e) : saidBefore (.error e) = [] := by
  cases e with
  | status e => exact absurd trivial h
  | _ => rfl

/-- **Asking says in all what is to be said of its result**, if of a status something has been said
before. -/
theorem ask_of_attempt {result : Except QueryError (List UInt8)} (notices : List Notice)
    {trace : Trace} (h : attempt url script = ⟨result, notices ++ saidBefore result, trace⟩) :
    ask url script = report result (asking url :: notices) trace := by
  rw [ask, h, report]
  rcases result with e | body
  · cases e <;> simp [saidBefore, complaints, complaint]
  · simp [saidBefore, complaints]

/-! ## What comes of a reply -/

/-- What comes of a head of a reply, and the number of reads: where the reply sends the reader on is
looked at first, and the body is read if the status is the right one. -/
def answer (url : List Char) (u : Url) (head : Head) (rest : List UInt8) (left : List Item)
    (reads : Nat) : Except QueryError (List UInt8) × Nat :=
  match checkRedirect url u head with
  | .error e => (.error e, reads)
  | .ok () =>
      if head.status = okStatus then
        let body := awaitBody (.ofFraming head.framing) (.ofCodings head.codings) [] rest left reads
        (body.result.mapError bodyError, body.reads)
      else (.error (.status ⟨url, head.status, head.reasonText⟩), reads)

/-- What was done on the connection of a request that went out, by the number of reads. -/
def exchange (send : Option NetworkFailure) (u : Url) (reads : Nat) : Trace where
  connects := [placeOf u]
  sent := if send.isNone then (Request.ofUrl u).bytes else []
  reads := reads
  closed := 1

theorem saidBefore_mapError_bodyError (result : Except BodyError (List UInt8)) :
    saidBefore (result.mapError bodyError) = [] := by
  cases result with
  | error e => exact saidBefore_of_not_isOfStatus (not_isOfStatus_bodyError e)
  | ok body => rfl

/-- **Behind a head a query comes to what the reply comes to**, and its connection, let go and left,
has been closed. -/
theorem take_eq {place : List Char × Int} {c : Connection} (hc : c.InUse place)
    (hserver : c.protocol.server = .sendBody) {head : Head}
    (hredirect : checkRedirect url u head = .ok ()) (rest : List UInt8) :
    ∃ c', take url head rest c =
        ⟨(answer url u head rest c.left c.trace.reads).1,
          saidBefore (answer url u head rest c.left c.trace.reads).1, c'⟩ ∧
      c'.letGo.leave.trace =
        { c.trace with reads := (answer url u head rest c.left c.trace.reads).2, closed := 1 } := by
  rw [answer, hredirect, take]
  by_cases hstatus : head.status = okStatus
  · obtain ⟨c', hread, htrace⟩ := hc.readBody_eq hserver head rest
    refine ⟨c', ?_, ?_⟩
    · simp only [if_pos hstatus, hread, saidBefore_mapError_bodyError]
    · simp only [if_pos hstatus, htrace]
  · refine ⟨c, ?_, ?_⟩
    · simp only [if_neg hstatus, saidBefore]
    · simp only [if_neg hstatus, hc.trace_letGo]

/-! ## The ways a query ends -/

/-- A query whose URL cannot be asked for does nothing. -/
theorem ask_of_askedUrl (h : askedUrl url = .error e) (script : Script) :
    ask url script = report (.error e) [asking url] .none := by
  refine ask_of_attempt [] ?_
  rw [saidBefore_of_not_isOfStatus (not_isOfStatus_of_askedUrl h), attempt, h]
  rfl

/-- A query whose connection is not made has tried to make it. -/
theorem ask_of_connect (h : askedUrl url = .ok u) {f : NetworkFailure}
    (hconnect : script.connect = some f) :
    ask url script =
      report (.error (.transport (.connecting f))) [asking url] ⟨[placeOf u], [], 0, 0⟩ := by
  refine ask_of_attempt [] ?_
  simp only [attempt, h, hconnect]
  rfl

/-- A query whose request does not go out in time has made a connection and closed it. -/
theorem ask_of_send (h : askedUrl url = .ok u) (hconnect : script.connect = none)
    (hsend : script.send = some .timeout) :
    ask url script =
      report (.error (.transport (.writing .timeout))) [asking url] ⟨[placeOf u], [], 0, 1⟩ := by
  refine ask_of_attempt [] ?_
  simp only [attempt, h, hconnect, hsend, askOver, Connection.handle]
  rfl

/-- **What a query comes to whose request goes out**: the error of waiting for the head, or what
comes of the head. -/
theorem ask_of_reply (h : askedUrl url = .ok u) (hconnect : script.connect = none)
    (hsend : script.send ≠ some .timeout) :
    ask url script =
      let wait := awaitHead [] [] script.reply 0
      match wait.result with
      | .error e => report (.error (.transport e)) [asking url] (exchange script.send u wait.reads)
      | .ok (head, rest) =>
          let answered := answer url u head rest wait.left wait.reads
          report answered.1 [asking url, exchanged u head] (exchange script.send u answered.2) := by
  obtain ⟨c, hsent, hmade, hserver, hleft, htrace⟩ :=
    Connection.sendRequest_made hsend (placeOf u) script.reply (.ofUrl u)
  obtain ⟨p, hwait, hserver'⟩ := Connection.awaitHead_eq hserver [] []
  have hwaited := hmade.readsOn (c.readsOnTo_awaitHead [] [])
  rw [hwait] at hwaited
  rw [hleft, htrace] at hwait hserver' hwaited
  dsimp only at hwait hserver' hwaited ⊢
  have hdone (reads : Nat) :
      ({ c.trace with reads, closed := 1 } : Trace) = exchange script.send u reads := by
    rw [htrace]
    rfl
  cases hresult : (awaitHead [] [] script.reply 0).result with
  | error e =>
      rw [hresult] at hwait
      refine ask_of_attempt [] ?_
      simp only [attempt, h, hconnect, askOver, Connection.handle, hsent, hwait]
      exact congrArg (Report.mk _ _) (hwaited.trace_release.trans (hdone _))
  | ok found =>
      obtain ⟨head, rest⟩ := found
      rw [hresult] at hwait
      refine ask_of_attempt [exchanged u head] ?_
      simp only [attempt, h, hconnect, askOver, Connection.handle, hsent, hwait]
      cases hredirect : checkRedirect url u head with
      | error e =>
          simp only [answer, hredirect,
            saidBefore_of_not_isOfStatus (not_isOfStatus_of_checkRedirect hredirect)]
          exact congrArg (Report.mk _ _) (hwaited.trace_letGo.trans (hdone _))
      | ok checked =>
          obtain ⟨c', htake, hleft⟩ := take_eq hwaited (hserver' _ hresult) hredirect rest
          simp only [htake]
          exact congrArg (Report.mk _ _) (hleft.trans (hdone _))

end Query
end RouteProbe
