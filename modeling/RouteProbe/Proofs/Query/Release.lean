import RouteProbe.Proofs.Query.Course

/-!
# Connections of a query

A query tries one connection at most.  If the connection is made, it is closed once, whatever
comes of the query; if it is not made, nothing is written, read or closed.  `Trace.IsReleased`
says this of what was done on the network, and it holds of every query (`Query.isReleased_run`).

The exchange that is carried out on a connection releases it on every way out, and before the client
leaves (`Query.isReleased_askOver`).  The ways are those of the exchange: the request is not written
in time, no head comes, the head sends the reader on to no URL, the status is not the right one and
the body is left unread, the body is read to its end or fails, or it cannot be decoded.  Up to there
the connection is in use, so none of them finds it closed.

What was done has one of three forms: nothing at all, a connection that was tried in vain, or one
that was made and closed.  They are told apart by two things only, whether host and path make a
URL that can be asked for and whether connecting succeeds, so a query is not released by doing
nothing: with such a URL exactly one connection is tried (`Query.connects_run_of_askedUrl`).
-/

namespace RouteProbe

open Network Http

namespace Network

/-- The number of connections that were made: all that were tried, unless connecting fails. -/
def Trace.made (t : Trace) (script : Script) : Nat :=
  if script.connect.isNone then t.connects.length else 0

/-- At most one connection was tried, every connection that was made has been closed, and
without one nothing else was done. -/
structure Trace.IsReleased (t : Trace) (script : Script) : Prop where
  connects_le : t.connects.length ≤ 1
  closed_eq : t.closed = t.made script
  untouched : t.made script = 0 → t.sent = [] ∧ t.reads = 0 ∧ t.closed = 0

variable {script : Script}

theorem isReleased_none (script : Script) : Trace.none.IsReleased script := by
  have hmade : Trace.none.made script = 0 := by
    unfold Trace.made
    split <;> rfl
  exact ⟨Nat.zero_le 1, hmade.symm, fun _ => ⟨rfl, rfl, rfl⟩⟩

/-- A connection that was tried in vain leaves nothing to close. -/
theorem isReleased_of_connect {f : NetworkFailure} (h : script.connect = some f)
    (place : List Char × Int) : (⟨[place], [], 0, 0⟩ : Trace).IsReleased script := by
  have hmade : (⟨[place], [], 0, 0⟩ : Trace).made script = 0 := by
    rw [Trace.made, h]
    rfl
  exact ⟨Nat.le_refl 1, hmade.symm, fun _ => ⟨rfl, rfl, rfl⟩⟩

/-- A connection that was made has been closed, whatever was written and read on it. -/
theorem isReleased_of_connect_none (h : script.connect = none) (place : List Char × Int)
    (sent : List UInt8) (reads : Nat) : (⟨[place], sent, reads, 1⟩ : Trace).IsReleased script := by
  have hmade : (⟨[place], sent, reads, 1⟩ : Trace).made script = 1 := by
    rw [Trace.made, h]
    rfl
  refine ⟨Nat.le_refl 1, hmade.symm, fun hzero => ?_⟩
  rw [hmade] at hzero
  cases hzero

end Network

namespace Query

/-- What was done for a URL that can be asked for: a connection was tried in vain, or made and
closed. -/
inductive Course (script : Script) (place : List Char × Int) : Trace → Prop where
  | refused (f : NetworkFailure) (connect : script.connect = some f) :
      Course script place ⟨[place], [], 0, 0⟩
  | closed (connect : script.connect = none) (sent : List UInt8) (reads : Nat) :
      Course script place ⟨[place], sent, reads, 1⟩

variable {host path : List Char} {script : Script} {place : List Char × Int} {t : Trace}

theorem Course.isReleased (h : Course script place t) : t.IsReleased script := by
  cases h with
  | refused f connect => exact isReleased_of_connect connect place
  | closed connect sent reads => exact isReleased_of_connect_none connect place sent reads

theorem Course.connects_eq (h : Course script place t) : t.connects = [place] := by
  cases h with
  | refused f connect => rfl
  | closed connect sent reads => rfl

/-! ## The ways out of an exchange -/

variable {c : Connection}

/-- What is taken behind a head leaves the connection in use, or has let it go. -/
theorem isSettled_take (h : c.InUse place) (url : List Char) (head : Head) (rest : List UInt8) :
    (take url head rest c).connection.IsSettled place := by
  rw [take]
  split
  · exact h.readBody head rest
  · exact .inl h

/-- **An exchange releases its connection on every way out.** -/
theorem isReleased_askOver (h : c.InUse place) (failure : Option NetworkFailure) (url : List Char)
    (u : Url) : (askOver c failure url u).connection.IsReleased place := by
  have hhandled := h.handle failure (.ofUrl u)
  rw [askOver]
  generalize c.handle failure (.ofUrl u) = handled at hhandled ⊢
  obtain ⟨e | ⟨head, rest⟩, c'⟩ := handled
  · exact hhandled
  · dsimp only
    split
    · exact hhandled.letGo.1
    · exact (isSettled_take hhandled url head rest).letGo

/-- What has been done on a connection that was released, after the client has left. -/
theorem course_leave (hconnect : script.connect = none) (h : c.IsReleased place) :
    Course script place c.leave.trace := by
  obtain ⟨hconnects, hclosed⟩ := h.leave
  have htrace : c.leave.trace = ⟨[place], c.leave.trace.sent, c.leave.trace.reads, 1⟩ := by
    rw [← hconnects, ← hclosed]
  rw [htrace]
  exact .closed hconnect _ _

/-- **What a query does on the network**, by whether its URL can be asked for. -/
theorem course_run (host path : List Char) (script : Script) :
    match askedUrl (Route.url host path) with
    | .error _ => (run host path script).trace = .none
    | .ok u => Course script (placeOf u) (run host path script).trace := by
  have htrace : (run host path script).trace = (attempt (Route.url host path) script).trace := rfl
  rw [htrace, attempt]
  cases askedUrl (Route.url host path) with
  | error e => rfl
  | ok u =>
      cases hconnect : script.connect with
      | some f => exact .refused f hconnect
      | none =>
          have hmade := Connection.inUse_made (placeOf u) script.reply
          exact course_leave hconnect (isReleased_askOver hmade script.send _ u)

/-- A query whose URL can be asked for tries one connection, to the place in the URL. -/
theorem connects_run_of_askedUrl {u : Url} (h : askedUrl (Route.url host path) = .ok u)
    (script : Script) : (run host path script).trace.connects = [placeOf u] := by
  have hcourse := course_run host path script
  rw [h] at hcourse
  exact hcourse.connects_eq

/-- **A query releases its connection**, whatever comes of it. -/
theorem isReleased_run (host path : List Char) (script : Script) :
    (run host path script).trace.IsReleased script := by
  have hcourse := course_run host path script
  cases hasked : askedUrl (Route.url host path) with
  | error e =>
      rw [hasked] at hcourse
      rw [hcourse]
      exact isReleased_none script
  | ok u =>
      rw [hasked] at hcourse
      exact hcourse.isReleased

end Query
end RouteProbe
