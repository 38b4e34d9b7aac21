import RouteProbe.Proofs.Http.Continuation
import RouteProbe.Proofs.Query.Reply

/-!
# Statuses other than 200

A reply of another status than 200 that does not send the reader on makes a query fail with the
status and the reason of its head, and nothing behind the head is looked at: the query reports the
same, down to the number of reads, for every way in which the reply goes on
(`Query.exists_forall_run_goingOn`).

The exception is a row of heads with an informational one that is too long to wait for.  It may be
given up, and then the query fails with that (`Query.not_forall_result_of_longHints`); but this
happens, or does not happen, before anything is seen of what stands behind the row.
-/

namespace RouteProbe

open Text Network Http

/-- What is in the error of a URL that is answered with a head: the URL, the number of the status,
and the ASCII bytes of the reason; and its text, without blanks at its end, in the message. -/
structure StatusError.Describes (e : StatusError) (url : List Char) (t : HeadText) : Prop where
  url_eq : e.url = url
  code_eq : e.code = t.status
  reason_eq : e.reason =
    ((t.reason.getD []).filter fun b => b.toNat < 0x80).map fun b => Char.ofNat b.toNat
  status_eq : e.status = trimEnd (natText t.status ++ ' ' :: e.reason)
  message_eq : e.message = "IntrospectionQuery failed with ".toList ++ e.status

/-- The error of a head describes it. -/
theorem StatusError.describes_head (url : List Char) (t : HeadText) :
    (⟨url, t.head.status, t.head.reasonText⟩ : StatusError).Describes url t :=
  ⟨rfl, rfl, rfl, rfl, rfl⟩

namespace Query

variable {host path : List Char} {script : Script} {u : Url}

/-- A head that does not send the reader on, or not to anywhere, has no target to be read. -/
theorem checkRedirect_of_stays {head : Head} (url : List Char) (u : Url)
    (h : head.status ∉ redirectStatuses ∨ valuesOf "location" head.fields = []) :
    checkRedirect url u head = .ok () := by
  unfold checkRedirect
  rcases h with hstatus | hvalues
  · rw [if_neg (by simpa using hstatus)]
  · rw [Head.locationText?, hvalues]
    split <;> rfl

/-- What comes of a head of another status than 200 that has no target. -/
theorem answer_of_stays (url : List Char) (u : Url) {head : Head}
    (hstatus : head.status ≠ okStatus)
    (hstays : head.status ∉ redirectStatuses ∨ valuesOf "location" head.fields = [])
    (rest : List UInt8) (left : List Item) (reads : Nat) :
    answer url u head rest left reads =
      (.error (.status ⟨url, head.status, head.reasonText⟩), reads) := by
  simp only [answer, checkRedirect_of_stays url u hstays, if_neg hstatus]

/-- What a query reports if its wait finds no head. -/
theorem run_of_found_error (h : Reaches host path script u) {e : TransportError} {reads : Nat}
    (hfound : (awaitHead [] [] script.reply 0).found = (.error e, reads)) :
    run host path script =
      report (.error (.transport e)) [asking (Route.url host path)]
        (exchange script.send u reads) := by
  rw [run_of_reaches h]
  rw [HeadAnswer.found, Prod.mk.injEq] at hfound
  obtain ⟨hresult, rfl⟩ := hfound
  cases hwait : (awaitHead [] [] script.reply 0).result with
  | error e' =>
      rw [hwait] at hresult
      obtain rfl : e' = e := Except.error.inj hresult
      simp only [hwait]
  | ok answered =>
      rw [hwait] at hresult
      cases hresult

/-- What a query reports if its wait finds a head of another status than 200 that has no target:
nothing but the head is in it. -/
theorem run_of_found_ok (h : Reaches host path script u) {head : Head} {reads : Nat}
    (hfound : (awaitHead [] [] script.reply 0).found = (.ok head, reads))
    (hstatus : head.status ≠ okStatus)
    (hstays : head.status ∉ redirectStatuses ∨ valuesOf "location" head.fields = []) :
    run host path script =
      report (.error (.status ⟨Route.url host path, head.status, head.reasonText⟩))
        [asking (Route.url host path), exchanged u head] (exchange script.send u reads) := by
  rw [run_of_reaches h]
  rw [HeadAnswer.found, Prod.mk.injEq] at hfound
  obtain ⟨hresult, rfl⟩ := hfound
  cases hwait : (awaitHead [] [] script.reply 0).result with
  | error e =>
      rw [hwait] at hresult
      cases hresult
  | ok answered =>
      rw [hwait] at hresult
      obtain rfl : answered.1 = head := Except.ok.inj hresult
      simp only [hwait, answer_of_stays _ u hstatus hstays]

/-- **A status other than 200 is reported, and nothing behind the head is looked at.**  However the
reply goes on behind its heads, the query reports the same: the error of the head, or, if there is
an informational head that is too long, that a head is. -/
theorem exists_forall_run_goingOn {send : Option NetworkFailure} {r : HeadRow}
    {pieces : List (List UInt8)} {last : List UInt8}
    (hasked : askedUrl (Route.url host path) = .ok u) (hsend : send ≠ some .timeout)
    (hstatus : r.final.status ≠ okStatus)
    (hstays : r.final.status ∉ redirectStatuses ∨ valuesOf "location" r.final.head.fields = [])
    (hlength : r.final.bytes.length ≤ maxWaiting) (hpieces : pieces.flatten ++ last = r.bytes) :
    ∃ answered : Report,
      (∀ more later,
        run host path ⟨none, send, goingOn pieces last more later⟩ = answered) ∧
      ((∃ e, answered.result = .error (.status e) ∧
          e.Describes (Route.url host path) r.final) ∨
        answered.result = .error (.transport (.protocol .tooLong)) ∧
          ∃ t ∈ r.infos, maxWaiting < t.bytes.length) := by
  have hreaches (more : List UInt8) (later : List Item) :
      Reaches host path ⟨none, send, goingOn pieces last more later⟩ u := ⟨hasked, rfl, hsend⟩
  rcases HeadRow.found_goingOn hpieces with ⟨reads, hfound⟩ | ⟨hlong, reads, hfound⟩
  · refine ⟨report (.error (.status ⟨Route.url host path, r.final.head.status,
      r.final.head.reasonText⟩)) [asking (Route.url host path), exchanged u r.final.head]
      (exchange send u reads), fun more later => ?_, ?_⟩
    · exact run_of_found_ok (hreaches more later) (hfound more later) hstatus hstays
    · exact .inl ⟨_, rfl, StatusError.describes_head _ r.final⟩
  · refine ⟨report (.error (.transport (.protocol .tooLong))) [asking (Route.url host path)]
      (exchange send u reads), fun more later => ?_, ?_⟩
    · exact run_of_found_error (hreaches more later) (hfound more later)
    · exact .inr ⟨rfl, HeadRow.exists_long_of_not_fits hlong hlength⟩

/-! ## A route that is not there -/

theorem announces_missingFields :
    Announces ([] ++ [(FieldText.ofLength 5).field]) (.counted 5) :=
  FieldText.announces_ofLength (by decide) rfl rfl

/-- The head of a route that is not there, with a byte in the reason that is not ASCII. -/
def missingHead : HeadText where
  major := byte '1'
  minor := byte '1'
  hundreds := byte '4'
  tens := byte '0'
  units := byte '4'
  reason := some (asciiBytes "Not F" ++ 0xf8 :: asciiBytes "und  ")
  withReturn := true
  fields := [.ofLength 5]
  endsWithReturn := true
  framing := .counted 5
  isDigitByte_of_mem := by decide +kernel
  isReasonByte_of_mem := by decide +kernel
  announces := announces_missingFields

theorem status_missingHead : missingHead.status = 404 := by decide +kernel

/-- The head behind one that is sent ahead. -/
def missingRow : HeadRow where
  infos := sampleReply.infos
  final := missingHead
  isInformational_of_mem := sampleReply.isInformational_of_mem
  le_status := by rw [status_missingHead]; omega

/-- The route is not there, whatever is sent of a body. -/
theorem exists_forall_run_missing :
    ∃ e, e.status = "404 Not Fund".toList ∧ ∀ more later,
      (run "127.0.0.1".toList "/nothing".toList
        ⟨none, none, goingOn [missingRow.bytes.take 40] (missingRow.bytes.drop 40) more
          later⟩).result = .error (.status e) := by
  have hasked : askedUrl (Route.url "127.0.0.1".toList "/nothing".toList) =
      .ok ⟨"http".toList, [], "127.0.0.1".toList, some 8080, "/nothing".toList, none, none⟩ := rfl
  have hsend : (none : Option NetworkFailure) ≠ some .timeout := by decide
  have hpieces : [missingRow.bytes.take 40].flatten ++ missingRow.bytes.drop 40 =
      missingRow.bytes := by
    rw [List.flatten_singleton, List.take_append_drop]
  obtain ⟨answered, hrun, ⟨e, hresult, hdescribes⟩ | ⟨-, t, ht, hlong⟩⟩ :=
    exists_forall_run_goingOn hasked hsend (by decide +kernel) (.inl (by decide +kernel))
      (by decide +kernel) hpieces
  · refine ⟨e, ?_, fun more later => ?_⟩
    · rw [hdescribes.status_eq, hdescribes.reason_eq]
      decide +kernel
    · rw [hrun, hresult]
  · rw [List.mem_singleton.mp ht] at hlong
    exact absurd hlong (by decide +kernel)

/-! ## A head that is too long to wait for -/

/-- A head that is sent ahead, with a field that is too long. -/
def longHints : HeadText :=
  { sampleHints with
    fields := [longField]
    announces := by
      have hvalues (name : String) (h : longField.field.isNamed name = false) :
          valuesOf name [longField.field] = [] := by
        rw [Framing.valuesOf_cons_of_not_isNamed h]
        rfl
      exact .untilEnd (hvalues _ (by decide +kernel)) (hvalues _ (by decide +kernel)) }

/-- The head of the missing route behind it. -/
def longRow : HeadRow where
  infos := [longHints]
  final := missingHead
  isInformational_of_mem := by
    intro t ht
    rw [List.mem_singleton.mp ht]
    decide +kernel
  le_status := by rw [status_missingHead]; omega

/-- What stands before the long value. -/
def longStart : List UInt8 := asciiBytes "HTTP/1.1 103 Early Hints\r\nX:"

/-- What stands behind the long value. -/
def longEnd : List UInt8 := asciiBytes "\r\n\r\n"

theorem longHints_bytes : [longStart, longValue].flatten ++ longEnd = longHints.bytes := by
  have hstart : longStart = longHints.statusLine.bytes ++ (longField.name ++ [byte ':']) := by
    decide +kernel
  have hend : longEnd = lineEnd true ++
      blockBytes (([] : List FieldText).flatMap FieldText.lines) longHints.endsWithReturn := by
    decide +kernel
  rw [HeadText.bytes_of_longField rfl, hstart, hend]
  simp only [List.flatten_cons, List.flatten_nil, List.append_nil, List.append_assoc,
    List.cons_append, List.nil_append]

theorem longHints_append : longHints.bytes ++ missingHead.bytes = longRow.bytes := by
  show longHints.bytes ++ missingHead.bytes = headBytes [longHints] missingHead
  rw [headBytes_cons, headBytes_nil]

/-- A wait for this row is given up at the end of the long value. -/
theorem awaitHead_longHints (later : List Item) :
    (awaitHead [] [] (dataItems [longStart, longValue] ++ later) 0).result =
      .error (.protocol .tooLong) := by
  have hlong : maxWaiting < [longStart, longValue].flatten.length := by
    rw [List.flatten_cons, List.flatten_singleton]
    exact maxWaiting_lt_length_longValue (by decide)
  exact HeadRow.awaitHead_long_first longHints_append longHints_bytes (by decide) hlong later

/-- **A status other than 200 is not always reported**: not if an informational head is too
long. -/
theorem not_forall_result_of_longHints :
    ¬ ∀ (host path : List Char) (u : Url) (send : Option NetworkFailure) (r : HeadRow)
      (pieces : List (List UInt8)) (last more : List UInt8) (later : List Item),
      askedUrl (Route.url host path) = .ok u → send ≠ some .timeout →
      r.final.status ≠ okStatus →
      (r.final.status ∉ redirectStatuses ∨ valuesOf "location" r.final.head.fields = []) →
      r.final.bytes.length ≤ maxWaiting → pieces.flatten ++ last = r.bytes →
      ∃ e, (run host path ⟨none, send, goingOn pieces last more later⟩).result =
        .error (.status e) := by
  intro hall
  have hreaches : Reaches "127.0.0.1".toList "/x".toList
      ⟨none, none, goingOn [longStart, longValue] (longEnd ++ missingHead.bytes) [] []⟩
      ⟨"http".toList, [], "127.0.0.1".toList, some 8080, "/x".toList, none, none⟩ :=
    ⟨rfl, rfl, by decide⟩
  have hpieces : [longStart, longValue].flatten ++ (longEnd ++ missingHead.bytes) =
      longRow.bytes := by
    rw [← List.append_assoc, longHints_bytes, longHints_append]
  obtain ⟨e, hclaimed⟩ := hall _ _ _ none _ _ _ [] [] hreaches.asked (by decide)
    (by decide +kernel) (.inl (by decide +kernel)) (by decide +kernel) hpieces
  rw [result_run_of_wait hreaches (awaitHead_longHints _)] at hclaimed
  cases hclaimed

end Query
end RouteProbe
