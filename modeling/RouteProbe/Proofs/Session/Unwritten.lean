import RouteProbe.Proofs.Query.Client
import RouteProbe.Proofs.Query.Sent
import RouteProbe.Session.Command

/-!
# Requests that cannot be written

A server may answer before it has read a request, and close the connection.  Then the request
cannot be written, but the answer is there, and it is read as if the request had gone out: what
comes of the query, what is said of it and what else is done on the network are the same, and only
the bytes that were sent are missing (`Session.query_unwritten`).

The client is left in the middle of such a request, and stays there.  But heads are read and a body
is taken without asking where the client stands, only whether it is the server's turn, and so it is
after every write but one that runs out of time (`Http.Connection.sendRequest_made`).  Where the
client stands counts when the connection is let go: it is closed at once if the request was not
written (`Query.phase_askOver`), and else it may be kept until the client leaves.  In the end it has
been closed once in both runs.

A request that is not written in time is another matter: the query ends in this error.  And a client
may keep other records of a write that fails than of one that does not, but what the query itself
says is the same.
-/

namespace RouteProbe

open Network Http

/-- What was done, but for the bytes that were sent. -/
def Network.Trace.unsent (t : Trace) : Trace := { t with sent := [] }

/-- A report of which nothing was sent. -/
def Report.unsent (r : Report) : Report := { r with trace := r.trace.unsent }

/-- The first report is the second one but for the bytes that were sent, of which it has none, and
for records and warnings. -/
structure Report.AgreesUnsent (r r' : Report) : Prop where
  result : r.result = r'.result
  trace : r.trace = r'.trace.unsent
  own : r.notices.filter Notice.isOwn = r'.notices.filter Notice.isOwn

/-- Two reports agree so if they annotate two that do. -/
theorem Report.Annotates.agreesUnsent {r r' q : Report} (h : r.Annotates q.unsent)
    (h' : r'.Annotates q) : r.AgreesUnsent r' where
  result := h.result.trans h'.result.symm
  trace := by
    rw [h.trace, h'.trace]
    rfl
  own := h.own.trans h'.own.symm

variable {failure : NetworkFailure}

namespace Query

/-- **A query whose request cannot be written comes to the same**, with nothing sent. -/
theorem run_of_unwritten (h : failure ≠ .timeout) (host path : List Char)
    (connect : Option NetworkFailure) (reply : List Item) :
    run host path ⟨connect, some failure, reply⟩ =
      (run host path ⟨connect, none, reply⟩).unsent := by
  cases hasked : askedUrl (Route.url host path) with
  | error e =>
      rw [run, run, ask_of_askedUrl hasked, ask_of_askedUrl hasked]
      rfl
  | ok u =>
      cases connect with
      | some f =>
          rw [run, run, ask_of_connect hasked rfl, ask_of_connect hasked rfl]
          rfl
      | none =>
          have hfailed : some failure ≠ some .timeout := fun heq => h (Option.some.inj heq)
          have hunwritten : Reaches host path ⟨none, some failure, reply⟩ u :=
            ⟨hasked, rfl, hfailed⟩
          have hwritten : Reaches host path ⟨none, none, reply⟩ u :=
            ⟨hasked, rfl, fun hsend => by cases hsend⟩
          rw [run_of_reaches hunwritten, run_of_reaches hwritten]
          dsimp only
          -- The reply is read from the same items, whatever became of the request.
          cases (Http.awaitHead [] [] reply 0).result <;> rfl

/-- **A connection whose request cannot be written is closed by the exchange**, however it ends. -/
theorem phase_askOver (place : List Char × Int) (reply : List Item) (f : NetworkFailure)
    (url : List Char) (u : Url) :
    (askOver (.made place reply) (some f) url u).connection.phase = .closed := by
  have hsent := Connection.isUnfinished_sendRequest place reply f (.ofUrl u)
  rw [askOver, Connection.handle]
  generalize (Connection.made place reply).sendRequest (some f) (.ofUrl u) = sent at hsent ⊢
  obtain ⟨_ | _, c⟩ := sent
  · exact congrArg Connection.phase hsent.release
  · have hwaited := hsent.readsOn (Connection.readsOnTo_awaitHead _ [] [])
    dsimp only at hwaited ⊢
    generalize c.awaitHead [] [] = waited at hwaited ⊢
    obtain ⟨_ | ⟨head, rest⟩, c'⟩ := waited
    · exact congrArg Connection.phase hwaited.release
    · dsimp only
      split
      · exact hwaited.letGo.2
      · rw [take]
        split
        · exact (hwaited.readBody head rest).letGo.2
        · exact hwaited.letGo.2

/-- A request that goes out is sent. -/
theorem sent_ne_nil {host path : List Char} {u : Url}
    (hasked : askedUrl (Route.url host path) = .ok u) (reply : List Item) :
    (run host path ⟨none, none, reply⟩).trace.sent ≠ [] := by
  rw [sent_run_of_askedUrl hasked, if_pos ⟨rfl, rfl⟩, Request.bytes, ne_eq, List.map_eq_nil_iff]
  unfold Request.text
  simp only [List.append_assoc]
  exact fun hnil => absurd (List.append_eq_nil_iff.mp hnil).1 (by decide)

end Query

namespace Session

/-- What came of a query of which nothing was sent. -/
def Queried.unsent (q : Queried) : Queried := { q with trace := q.trace.unsent }

/-- A query of a session says the same about a report, whatever was sent. -/
theorem query_of_run_unsent (s : Session) (stamp : List Char) {host path : List Char}
    {script script' : Script}
    (h : Query.run host path script' = (Query.run host path script).unsent) :
    s.query stamp host path script' = (s.query stamp host path script).unsent := by
  simp only [query, Client.plain, h, Report.unsent]
  split
  · rfl
  · split <;> rfl

/-- **A request that cannot be written does not hide the answer.**  A query comes to the same body
or the same error, says the same and reads and closes the same, as if the request had gone out, by
itself and in a session; and of the request, which is sent if it goes out, nothing is sent.  The
connection itself is closed behind the reply and not kept.  Through a client that goes straight the
query comes to the same and says the same of its own, whatever records the client keeps. -/
theorem query_unwritten (s : Session) (stamp host path : List Char)
    (connect : Option NetworkFailure) {failure : NetworkFailure} (h : failure ≠ .timeout)
    (reply : List Item) :
    Query.run host path ⟨connect, some failure, reply⟩ =
        (Query.run host path ⟨connect, none, reply⟩).unsent ∧
      s.query stamp host path ⟨connect, some failure, reply⟩ =
        (s.query stamp host path ⟨connect, none, reply⟩).unsent ∧
      (∀ u, Query.askedUrl (Route.url host path) = .ok u →
        (Query.run host path ⟨none, none, reply⟩).trace.sent ≠ [] ∧
          (Query.askOver (.made (Query.placeOf u) reply) (some failure) (Route.url host path)
            u).connection.phase = .closed) ∧
      ∀ client : Client, client.GoesStraight → ∀ vars, Client.IsDirect vars →
        (client vars host path ⟨connect, some failure, reply⟩).AgreesUnsent
          (client vars host path ⟨connect, none, reply⟩) := by
  have hrun := Query.run_of_unwritten h host path connect reply
  refine ⟨hrun, s.query_of_run_unsent stamp hrun, fun u hasked => ⟨?_, ?_⟩,
    fun client hclient vars hdirect => ?_⟩
  · exact Query.sent_ne_nil hasked reply
  · exact Query.phase_askOver (Query.placeOf u) reply failure _ u
  · have hunwritten := hclient vars host path ⟨connect, some failure, reply⟩ hdirect
    rw [hrun] at hunwritten
    exact hunwritten.agreesUnsent (hclient vars host path ⟨connect, none, reply⟩ hdirect)

/-- The server has closed the connection before the request is written, and its reply in two chunks
is read all the same. -/
theorem query_unwritten_brokenPipe :
    (Session.start ⟨[], none⟩).query [] "127.0.0.1".toList "/state".toList
        ⟨none, some .brokenPipe, [.data sampleReply.bytes]⟩ =
      ((Session.start ⟨[], none⟩).query [] "127.0.0.1".toList "/state".toList
        ⟨none, none, [.data sampleReply.bytes]⟩).unsent ∧
      (Query.run "127.0.0.1".toList "/state".toList
        ⟨none, none, [.data sampleReply.bytes]⟩).trace.sent ≠ [] := by
  have hfailure : NetworkFailure.brokenPipe ≠ .timeout := by decide
  obtain ⟨-, hquery, hsent, -⟩ := query_unwritten (Session.start ⟨[], none⟩) [] "127.0.0.1".toList
    "/state".toList none hfailure [.data sampleReply.bytes]
  exact ⟨hquery, (hsent ⟨"http".toList, [], "127.0.0.1".toList, some 8080, "/state".toList, none,
    none⟩ rfl).1⟩

end Session
end RouteProbe
