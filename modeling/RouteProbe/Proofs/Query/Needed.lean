import RouteProbe.Proofs.Http.Needed
import RouteProbe.Proofs.Query.Reply

/-!
# What a query needs of a reply

A query makes no read after a reply has come as far as it is needed: all its heads if the status is
another than 200, and otherwise all of a body that marks its own end (`Suffices`).  So what a server
does after a healthy answer does not show.  More than that, whatever the reply is and whatever comes
of it, a query that has ended before the end of the stream is the same query, down to the number of
reads, if anything else stands behind the reply (`Query.run_needs_no_more`).

The query waits for a head and then perhaps for a body, so its reads are those of the two waits,
each of which takes the reads that it needs (`HeadAnswer.Took`, `BodyAnswer.Took`).
-/

namespace RouteProbe
namespace Query

open Network Http

/-! ## Enough of a reply -/

/-- What has come of a reply is enough: the heads of one of another status than 200, or the heads
and the body of one that marks its own end.  Anything may stand behind. -/
inductive Suffices : List UInt8 → Prop where
  | heads (r : HeadRow) (status : r.final.status ≠ okStatus) (more : List UInt8) :
      Suffices (r.bytes ++ more)
  | body (r : HeadRow) (body : BodyText) (framing : r.final.framing = body.framing)
      (marksEnd : body.MarksEnd) (more : List UInt8) :
      Suffices (r.bytes ++ (body.bytes ++ more))

/-- Of bytes that are enough a head is taken, and a whole body if the status is 200. -/
theorem Suffices.exists_takeHead {bytes : List UInt8} (h : Suffices bytes) :
    ∃ head rest, takeHead [] bytes = .final head rest ∧
      (head.status = okStatus → ((Body.ofFraming head.framing).absorb rest).2 = .complete) := by
  cases h with
  | heads r status more =>
      exact ⟨r.final.head, more, r.takeHead_bytes more, fun hok => absurd hok status⟩
  | body r body framing marksEnd more =>
      refine ⟨r.final.head, body.bytes ++ more, r.takeHead_bytes _, fun _ => ?_⟩
      have hframing : r.final.head.framing = body.framing := framing
      rw [hframing, (BodyText.ends marksEnd).absorb_append]

variable {host path : List Char} {script : Script} {u : Url}

/-! ## The reads behind a head -/

/-- What comes of a head takes `n` reads.  They are made for a body only, while it is incomplete,
and they would be the same with more items behind. -/
structure AnswerTook (url : List Char) (u : Url) (head : Head) (rest : List UInt8)
    (left : List Item) (reads n : Nat) : Prop where
  reads_eq : (answer url u head rest left reads).2 = reads + n
  incomplete : ∀ m < n, head.status = okStatus ∧
    ((Body.ofFraming head.framing).absorb (rest ++ came m left)).2 ≠ .complete
  append : NeverEnds n left → ∀ more,
    answer url u head rest (left ++ more) reads = answer url u head rest left reads

/-- **Behind a head are made the reads that the body needs.** -/
theorem exists_answerTook (url : List Char) (u : Url) (head : Head) (rest : List UInt8)
    (left : List Item) (reads : Nat) : ∃ n, AnswerTook url u head rest left reads n := by
  -- without a body to be read nothing of what is left is looked at
  have hnone (hstops : ∃ result, ∀ left, answer url u head rest left reads = (result, reads)) :
      AnswerTook url u head rest left reads 0 := by
    obtain ⟨result, hstops⟩ := hstops
    exact ⟨by rw [hstops]; rfl, fun m hm => absurd hm (Nat.not_lt_zero m),
      fun _ more => by rw [hstops, hstops]⟩
  cases hredirect : checkRedirect url u head with
  | error e => exact ⟨0, hnone ⟨.error e, fun left => by simp only [answer, hredirect]⟩⟩
  | ok _ =>
      by_cases hstatus : head.status = okStatus
      · have hbody (left : List Item) : answer url u head rest left reads =
            ((awaitBody (.ofFraming head.framing) (.ofCodings head.codings) [] rest left
                reads).result.mapError bodyError,
              (awaitBody (.ofFraming head.framing) (.ofCodings head.codings) [] rest left
                reads).reads) := by
          simp only [answer, hredirect, if_pos hstatus]
        obtain ⟨n, htook⟩ := exists_took_awaitBody (Body.proper_ofFraming head.framing)
          (.ofCodings head.codings) [] rest left reads
        refine ⟨n, ?_, fun m hm => ⟨hstatus, htook.incomplete m hm⟩, fun hends more => ?_⟩
        · rw [hbody]
          exact htook.reads_eq
        · rw [hbody, hbody, htook.append hends more]
      · exact ⟨0, hnone ⟨.error (.status ⟨url, head.status, head.reasonText⟩), fun left => by
          simp only [answer, hredirect, if_neg hstatus]⟩⟩

/-! ## The reads of a query -/

/-- What a query needs of a reply: none of its reads is made after what has come is enough, and if
none of them gives the end of the stream, the query is the same with more items behind. -/
structure NeedsNoMore (host path : List Char) (script : Script) : Prop where
  not_suffices : ∀ n < (run host path script).trace.reads, ¬ Suffices (came n script.reply)
  append : NeverEnds (run host path script).trace.reads script.reply → ∀ more,
    run host path { script with reply := script.reply ++ more } = run host path script

/-- A query whose request does not go out reads nothing, whatever the reply is. -/
theorem run_of_not_reaches (h : ∀ u, ¬ Reaches host path script u) :
    (run host path script).trace.reads = 0 ∧
      ∀ reply, run host path { script with reply } = run host path script := by
  cases hasked : askedUrl (Route.url host path) with
  | error e =>
      rw [run, ask_of_askedUrl hasked]
      exact ⟨rfl, fun reply => ask_of_askedUrl hasked _⟩
  | ok u =>
      cases hconnect : script.connect with
      | some f =>
          rw [run, ask_of_connect hasked hconnect]
          exact ⟨rfl, fun reply => ask_of_connect hasked rfl⟩
      | none =>
          by_cases hsend : script.send = some .timeout
          · rw [run, ask_of_send hasked hconnect hsend]
            exact ⟨rfl, fun reply => ask_of_send hasked rfl hsend⟩
          · exact absurd ⟨hasked, hconnect, hsend⟩ (h u)

/-- A query that waits for a head in vain needs no more than this wait does. -/
theorem needsNoMore_of_wait_error (h : Reaches host path script u) {e : TransportError}
    (hwait : (awaitHead [] [] script.reply 0).result = .error e) :
    NeedsNoMore host path script := by
  obtain ⟨n, htook⟩ := exists_took_awaitHead [] [] script.reply 0
  have hrun : run host path script = report (.error (.transport e))
      [asking (Route.url host path)] (exchange script.send u n) := by
    rw [run_of_reaches h]
    simp only [hwait, htook.reads_eq, Nat.zero_add]
  refine ⟨fun m hm hsuffices => ?_, fun hends more => ?_⟩
  · rw [hrun] at hm
    obtain ⟨kept, hpartly⟩ := htook.partly m hm
    obtain ⟨head, rest, hfinal, -⟩ := hsuffices.exists_takeHead
    rw [List.nil_append, hfinal] at hpartly
    cases hpartly
  · rw [hrun] at hends ⊢
    have hreaches : Reaches host path { script with reply := script.reply ++ more } u :=
      ⟨h.asked, h.connect, h.send⟩
    rw [run_of_reaches hreaches]
    simp only [htook.append hends more, hwait, htook.reads_eq, Nat.zero_add]

/-- A query that has found a head needs no more than the two waits do. -/
theorem needsNoMore_of_wait_ok (h : Reaches host path script u) {head : Head}
    {rest : List UInt8} (hwait : (awaitHead [] [] script.reply 0).result = .ok (head, rest)) :
    NeedsNoMore host path script := by
  obtain ⟨n, htook⟩ := exists_took_awaitHead [] [] script.reply 0
  obtain ⟨k, hanswer⟩ := exists_answerTook (Route.url host path) u head rest
    (leftAfter n script.reply) n
  have hrun : run host path script =
      report (answer (Route.url host path) u head rest (leftAfter n script.reply) n).1
        [asking (Route.url host path), exchanged u head] (exchange script.send u (n + k)) := by
    rw [run_of_reaches h]
    simp only [hwait, htook.reads_eq, htook.left_eq, Nat.zero_add, hanswer.reads_eq]
  have hreads : (run host path script).trace.reads = n + k := by
    rw [hrun]
    rfl
  refine ⟨fun m hm hsuffices => ?_, fun hends more => ?_⟩
  · rw [hreads] at hm
    obtain ⟨head', rest', htake, hwhole⟩ := hsuffices.exists_takeHead
    rcases Nat.lt_or_ge m n with hlt | hge
    · -- the head has not come
      obtain ⟨kept, hpartly⟩ := htook.partly m hlt
      rw [List.nil_append, htake] at hpartly
      cases hpartly
    · -- the head has come, and what came behind it is of a body that is incomplete
      obtain ⟨j, rfl⟩ := Nat.exists_eq_add_of_le hge
      obtain ⟨hstatus, hincomplete⟩ := hanswer.incomplete j (Nat.lt_of_add_lt_add_left hm)
      have hfinal := htook.final head rest hwait
      rw [List.nil_append] at hfinal
      rw [came_add, takeHead_append_of_final hfinal, HeadResult.final.injEq] at htake
      obtain ⟨rfl, rfl⟩ := htake
      exact hincomplete (hwhole hstatus)
  · rw [hreads] at hends
    obtain ⟨hhead, hbody⟩ := (neverEnds_add n k script.reply).mp hends
    have hreaches : Reaches host path { script with reply := script.reply ++ more } u :=
      ⟨h.asked, h.connect, h.send⟩
    rw [hrun, run_of_reaches hreaches]
    simp only [htook.append hhead more, hwait, htook.reads_eq, htook.left_eq, Nat.zero_add,
      hanswer.append hbody more, hanswer.reads_eq]

/-- **A query reads what it needs and no more.**  No read is made after the heads of a reply of
another status than 200, or after a body that marks its own end; and a query that has ended without
a read that gave the end of the stream is the same if anything else stands behind the reply. -/
theorem run_needs_no_more (host path : List Char) (script : Script) :
    (∀ n < (run host path script).trace.reads, ¬ Suffices (came n script.reply)) ∧
      (NeverEnds (run host path script).trace.reads script.reply → ∀ more,
        run host path { script with reply := script.reply ++ more } = run host path script) := by
  have hneeds : NeedsNoMore host path script := by
    by_cases hreaches : ∃ u, Reaches host path script u
    · obtain ⟨u, hreaches⟩ := hreaches
      cases hwait : (awaitHead [] [] script.reply 0).result with
      | error e => exact needsNoMore_of_wait_error hreaches hwait
      | ok found => exact needsNoMore_of_wait_ok hreaches hwait
    · obtain ⟨hreads, hsame⟩ := run_of_not_reaches fun u h => hreaches ⟨u, h⟩
      exact ⟨fun n hn => absurd hn (by rw [hreads]; exact Nat.not_lt_zero n),
        fun _ more => hsame _⟩
  exact ⟨hneeds.not_suffices, hneeds.append⟩

/-- Behind two chunks that have come in one read the connection may fail. -/
theorem run_needs_no_more_sample :
    run "127.0.0.1".toList "/state".toList
        ⟨none, none, [.data sampleReply.bytes] ++ [.failure .reset]⟩ =
      run "127.0.0.1".toList "/state".toList ⟨none, none, [.data sampleReply.bytes]⟩ := by
  have hbytes : sampleReply.bytes ≠ [] := by decide +kernel
  have hread : read [.data sampleReply.bytes] = (.ok sampleReply.bytes, []) :=
    read_data_whole hbytes (by decide +kernel) []
  have hcame : came 1 [.data sampleReply.bytes] =
      sampleReply.row.bytes ++ (sampleReply.body.bytes ++ []) := by
    rw [came_succ hread, came_zero, List.append_nil, List.append_nil]
    rfl
  obtain ⟨hneeded, hsame⟩ := run_needs_no_more "127.0.0.1".toList "/state".toList
    ⟨none, none, [.data sampleReply.bytes]⟩
  -- one read is enough, and it does not give the end of the stream
  refine hsame (fun given hgiven => ?_) _
  have hreads := Nat.not_lt.mp fun hlt => hneeded 1 hlt (hcame ▸ .body sampleReply.row
    sampleReply.body sampleReply.framing_final Framing.noConfusion [])
  have hone : NeverEnds 1 [.data sampleReply.bytes] :=
    (neverEnds_succ_iff hread).mpr ⟨fun h => hbytes (Except.ok.inj h), neverEnds_zero _⟩
  obtain ⟨k, hk⟩ := Nat.exists_eq_add_of_le hreads
  rw [hk] at hone
  exact ((neverEnds_add _ k _).mp hone).1 given hgiven

end Query
end RouteProbe
