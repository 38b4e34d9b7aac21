import RouteProbe.Proofs.Http.Reply
import RouteProbe.Proofs.Query.Course

/-!
# Queries that are answered

A query whose URL can be asked for, whose connection is made and whose request goes out comes
to what its reply is (`Query.result_run`).  If the reply comes whole, the query gives the body
as it was written, however the bytes were cut (`Query.run_eq_body`).  If only a part of it
comes, the query does not succeed: it ends in the error that stands where the stream breaks
off (`Query.run_of_cutShort`).
-/

namespace RouteProbe
namespace Query

open Network Http

/-- The URL can be asked for, and nothing keeps the request from going out.  Writing may fail,
but not by running out of time: the reply is read all the same. -/
structure Reaches (host path : List Char) (script : Script) (u : Url) : Prop where
  asked : askedUrl (Route.url host path) = .ok u
  connect : script.connect = none
  send : script.send ≠ some .timeout

variable {host path : List Char} {script : Script} {u : Url} {r : Reply}

/-- A query whose URL cannot be asked for does nothing on the network. -/
theorem run_of_askedUrl {e : QueryError} (h : askedUrl (Route.url host path) = .error e)
    (script : Script) :
    (run host path script).result = .error e ∧ (run host path script).trace = .none := by
  rw [run, ask_of_askedUrl h]
  exact ⟨rfl, rfl⟩

/-- A query whose connection is not made ends in that error. -/
theorem result_run_of_connect (h : askedUrl (Route.url host path) = .ok u) {f : NetworkFailure}
    (hconnect : script.connect = some f) :
    (run host path script).result = .error (.transport (.connecting f)) := by
  rw [run, ask_of_connect h hconnect]
  rfl

/-- A query whose request does not go out in time ends in that error. -/
theorem result_run_of_send (h : askedUrl (Route.url host path) = .ok u)
    (hconnect : script.connect = none) (hsend : script.send = some .timeout) :
    (run host path script).result = .error (.transport (.writing .timeout)) := by
  rw [run, ask_of_send h hconnect hsend]
  rfl

/-- A request that does not go out ends the query in an error of the network. -/
theorem reaches_or_transport (h : askedUrl (Route.url host path) = .ok u) (script : Script) :
    Reaches host path script u ∨
      ∃ e, (run host path script).result = .error (.transport e) := by
  cases hconnect : script.connect with
  | some f => exact .inr ⟨_, result_run_of_connect h hconnect⟩
  | none =>
      by_cases hsend : script.send = some .timeout
      · exact .inr ⟨_, result_run_of_send h hconnect hsend⟩
      · exact .inl ⟨h, hconnect, hsend⟩

/-- **What a query is whose request goes out**: with an error in waiting for the head it ends, and
behind a head it is what comes of the head. -/
theorem run_of_reaches (h : Reaches host path script u) :
    run host path script =
      let wait := awaitHead [] [] script.reply 0
      let url := Route.url host path
      match wait.result with
      | .error e => report (.error (.transport e)) [asking url] (exchange script.send u wait.reads)
      | .ok (head, rest) =>
          let answered := answer url u head rest wait.left wait.reads
          report answered.1 [asking url, exchanged u head] (exchange script.send u answered.2) :=
  ask_of_reply h.asked h.connect h.send

/-- **What a query comes to whose request goes out.** -/
theorem result_run (h : Reaches host path script u) :
    ∃ reads, (run host path script).result =
      match (awaitHead [] [] script.reply 0).result with
      | .error e => .error (.transport e)
      | .ok (head, rest) =>
          (answer (Route.url host path) u head rest (awaitHead [] [] script.reply 0).left
            reads).1 := by
  refine ⟨(awaitHead [] [] script.reply 0).reads, ?_⟩
  rw [run_of_reaches h]
  dsimp only
  cases (awaitHead [] [] script.reply 0).result <;> rfl

/-- A query whose wait ends in an error ends in it. -/
theorem result_run_of_wait (h : Reaches host path script u) {e : TransportError}
    (hwait : (awaitHead [] [] script.reply 0).result = .error e) :
    (run host path script).result = .error (.transport e) := by
  obtain ⟨reads, hresult⟩ := result_run h
  rw [hresult, hwait]

/-- Behind a head of the right status the body is read, and nothing else comes of the head. -/
theorem answer_of_okStatus (url : List Char) (u : Url) {head : Head}
    (h : head.status = okStatus) (rest : List UInt8) (left : List Item) (reads : Nat) :
    (answer url u head rest left reads).1 =
      (awaitBody (.ofFraming head.framing) (.ofCodings head.codings) [] rest left
        reads).result.mapError bodyError := by
  have hredirect : checkRedirect url u head = .ok () := by
    rw [checkRedirect, h]
    rfl
  simp only [answer, hredirect, h, if_true]

/-- The body is read behind the head of a reply that has it. -/
theorem answer_final (url : List Char) (u : Url) (r : Reply) (rest : List UInt8)
    (left : List Item) (reads : Nat) :
    (answer url u r.final.head rest left reads).1 =
      (awaitBody (.ofFraming r.body.framing) [] [] rest left reads).result.mapError bodyError := by
  have hframing : r.final.head.framing = r.body.framing := r.framing_final
  rw [answer_of_okStatus url u r.status_final, r.codings_final, hframing]
  rfl

/-- A query for which a row of heads comes goes on with what the head that is wanted asks for,
unless one of the heads is too long. -/
theorem result_run_row (h : Reaches host path script u) {row : HeadRow}
    {pieces : List (List UInt8)} {more : List UInt8} {later : List Item}
    (hreply : script.reply = dataItems pieces ++ later)
    (hbytes : pieces.flatten = row.bytes ++ more) :
    (∃ front rest reads, front ++ rest.flatten = more ∧
      (run host path script).result =
        (answer (Route.url host path) u row.final.head front (dataItems rest ++ later) reads).1) ∨
    ((run host path script).result = .error (.transport (.protocol .tooLong)) ∧ ¬ row.Fits) := by
  obtain ⟨reads, hresult⟩ := result_run h
  rw [hreply] at hresult
  rcases HeadRow.awaitHead_whole hbytes later with
    ⟨front, rest, reads', hwait, hmore⟩ | ⟨hwait, hlong⟩
  · refine .inl ⟨front, rest, reads, hmore, ?_⟩
    rw [hresult, hwait]
  · refine .inr ⟨?_, hlong⟩
    rw [hresult, hwait]

/-- A query for which all heads come: behind them the body is waited for. -/
theorem result_run_heads (h : Reaches host path script u) {pieces : List (List UInt8)}
    {more : List UInt8} {later : List Item} (hreply : script.reply = dataItems pieces ++ later)
    (hbytes : pieces.flatten = headBytes r.infos r.final ++ more) :
    (∃ front rest reads, front ++ rest.flatten = more ∧
      (run host path script).result =
        (awaitBody (.ofFraming r.body.framing) [] [] front (dataItems rest ++ later)
          reads).result.mapError bodyError) ∨
    ((run host path script).result = .error (.transport (.protocol .tooLong)) ∧
      ¬ r.HeadsFit) := by
  have hrow : pieces.flatten = r.row.bytes ++ more := hbytes
  refine (result_run_row h hreply hrow).imp_left ?_
  rintro ⟨front, rest, reads, hmore, hresult⟩
  exact ⟨front, rest, reads, hmore, hresult.trans (answer_final _ u r front _ reads)⟩

/-- A reply that comes whole, and has no part that is too long, gives its body.  One that ends
with the stream has nothing behind it. -/
theorem run_eq_body_of_fits (h : Reaches host path script u) (hfits : r.Fits)
    {pieces : List (List UInt8)} {more : List UInt8} {later : List Item}
    (hreply : script.reply = dataItems pieces ++ later)
    (hbytes : pieces.flatten = r.bytes ++ more)
    (hend : r.body.MarksEnd ∨ more = [] ∧ later = []) :
    (run host path script).result = .ok r.body.content := by
  rw [Reply.bytes, List.append_assoc] at hbytes
  obtain ⟨front, rest, reads, hrest, hresult⟩ :=
    (result_run_heads h hreply hbytes).resolve_right fun hlong => hlong.2 hfits.1
  rw [hresult, Reply.awaitBody_content hfits.2 hend hrest reads]
  rfl

/-- **A query gives the body exactly as it was written**: whatever informational heads come
first, however the head frames the body, and however the bytes are cut.  Behind a body that
marks its own end, more bytes or other items may follow. -/
theorem run_eq_body (h : Reaches host path script u) (hheads : r.HeadsFit)
    (hplain : r.body.IsPlain) {pieces : List (List UInt8)} {more : List UInt8}
    {later : List Item} (hreply : script.reply = dataItems pieces ++ later)
    (hbytes : pieces.flatten = r.bytes ++ more)
    (hend : r.body.MarksEnd ∨ more = [] ∧ later = []) :
    (run host path script).result = .ok r.body.content :=
  run_eq_body_of_fits h ⟨hheads, hplain.length_le⟩ hreply hbytes hend

/-- Two heads and two chunks that come byte by byte, with more behind them, and a connection
that is reset in the end. -/
theorem run_eq_body_sample :
    (run "127.0.0.1".toList "/state".toList
      ⟨none, some .brokenPipe,
        dataItems ((sampleReply.bytes ++ asciiBytes "HTTP/1.1 404 Late\r\n").map fun b => [b]) ++
          [.failure .reset]⟩).result = .ok (asciiBytes "01234567890123456789") := by
  have hbytes :
      ((sampleReply.bytes ++ asciiBytes "HTTP/1.1 404 Late\r\n").map fun b => [b]).flatten =
        sampleReply.bytes ++ asciiBytes "HTTP/1.1 404 Late\r\n" := by decide +kernel
  exact run_eq_body ⟨rfl, rfl, by decide⟩ sampleReply_fits.1 sampleReply_isPlain rfl hbytes
    (.inl Framing.noConfusion)

/-! ## Parts of replies -/

/-- **A query whose reply is cut short ends in an error**: the one that stands where the stream
breaks off, unless a part of the reply that is too long has made it give up before. -/
theorem run_of_cutShort (h : Reaches host path script u) {pieces : List (List UInt8)}
    (hcut : r.CutShort pieces) {later : List Item} {e : TransportError}
    (hreply : script.reply = dataItems pieces ++ later) (hlater : BreaksOff later e) :
    (∃ e', BreaksOff later e' ∧ (run host path script).result = .error (.transport e')) ∨
    ((run host path script).result = .error (.transport (.protocol .tooLong)) ∧ ¬ r.Fits) := by
  obtain ⟨hends, owed, howed, hbytes⟩ := hcut
  obtain ⟨reads, hresult⟩ := result_run h
  rw [hreply] at hresult
  rw [Reply.bytes] at hbytes
  -- the stream breaks off in the heads, or behind them
  by_cases hwhole : ∃ came, pieces.flatten = headBytes r.infos r.final ++ came
  · obtain ⟨came, hcame⟩ := hwhole
    rw [hcame, List.append_assoc, List.append_right_inj] at hbytes
    rcases result_run_heads h hreply hcame with ⟨front, rest, reads', hrest, hbody⟩ | ⟨hlong, hfit⟩
    · rw [← hrest] at hbytes
      rcases Reply.awaitBody_part hends hbytes howed hlater reads' with
        ⟨e', he', hwait⟩ | ⟨hwait, hfit⟩
      · refine .inl ⟨e', he', ?_⟩
        rw [hbody, hwait]
        rfl
      · refine .inr ⟨?_, fun hfits => hfit hfits.2⟩
        rw [hbody, hwait]
        rfl
    · exact .inr ⟨hlong, fun hfits => hfit hfits.1⟩
  · obtain ⟨rest, hheads, hrest⟩ : ∃ rest, pieces.flatten ++ rest = headBytes r.infos r.final ∧
        rest ≠ [] := by
      rcases List.append_eq_append_iff.mp hbytes with ⟨rest, hheads, -⟩ | ⟨came, hcame, -⟩
      · refine ⟨rest, hheads.symm, ?_⟩
        rintro rfl
        exact hwhole ⟨[], by rw [hheads, List.append_nil, List.append_nil]⟩
      · exact absurd ⟨came, hcame⟩ hwhole
    rcases HeadRow.awaitHead_part (r := r.row) hheads hrest hlater with
      ⟨e', he', hwait⟩ | ⟨hwait, hfit⟩
    · refine .inl ⟨e', he', ?_⟩
      rw [hresult, hwait]
    · refine .inr ⟨?_, fun hfits => hfit hfits.1⟩
      rw [hresult, hwait]

end Query
end RouteProbe
