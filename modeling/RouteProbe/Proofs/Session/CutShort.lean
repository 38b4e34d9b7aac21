import RouteProbe.Proofs.Session.Command

/-!
# Replies that are cut short

A reply of which only a part comes is never taken for a whole one, neither by a query nor by
the command (`result_of_cutShort`).  If the stream ends there, the reply is malformed; if it
fails there, the query reports the failure.

The second has an exception, which is shown on a head of more than `maxWaiting` bytes
(`not_forall_reading_of_cutShort`): so long a head is given up before the stream fails, and the
reply counts as malformed then as well.
-/

namespace RouteProbe
namespace Session

open Network Http

/-- **A reply that is cut short is never a success.**  At the end of the stream it is malformed;
a failure to read is reported as what it is, unless the reply has a part that is too long to
wait for; and either way the command ends with 1 and writes nothing to standard output. -/
theorem result_of_cutShort {host path : List Char} {script : Script} {u : Url} {r : Reply}
    {pieces : List (List UInt8)} {later : List Item} (h : Query.Reaches host path script u)
    (hcut : r.CutShort pieces) (hreply : script.reply = dataItems pieces ++ later) :
    (later = [] →
      ∃ e, (Query.run host path script).result = .error (.transport (.protocol e))) ∧
    (∀ f rest, later = .failure f :: rest →
      (Query.run host path script).result = .error (.transport (.reading f)) ∧
          (TransportError.reading f).name =
            (if f = .timeout then "ReadTimeout" else "ReadError") ∨
        (Query.run host path script).result = .error (.transport (.protocol .tooLong)) ∧
          ¬ r.Fits) ∧
    ((later = [] ∨ ∃ f rest, later = .failure f :: rest) →
      ∀ (w : Surroundings) (settings : Settings) (arguments : List Cli.Argument)
        (request : Cli.Request) (stamp : List Char),
        (Settings.load [] w).result = .ok settings →
        Cli.request settings.collectorHost.toList arguments = .ok request →
        hostText request.host = host → request.path = path →
        ((start w).run stamp arguments script).ending = .code 1 ∧
          ((start w).run stamp arguments script).out = []) := by
  have hfails {e : TransportError} (hlater : BreaksOff later e) :
      ∃ e', (Query.run host path script).result = .error (.transport e') := by
    rcases Query.run_of_cutShort h hcut hreply hlater with ⟨e', -, hresult⟩ | ⟨hresult, -⟩
    · exact ⟨e', hresult⟩
    · exact ⟨_, hresult⟩
  refine ⟨?_, ?_, ?_⟩
  · rintro rfl
    rcases Query.run_of_cutShort h hcut hreply (.ended .disconnected) with
      ⟨e', hlater, hresult⟩ | ⟨hresult, -⟩
    · cases hlater with
      | ended e => exact ⟨e, hresult⟩
    · exact ⟨_, hresult⟩
  · rintro f rest rfl
    rcases Query.run_of_cutShort h hcut hreply (.failed f rest) with
      ⟨e', hlater, hresult⟩ | hlong
    · cases hlater with
      | failed f rest =>
          refine .inl ⟨hresult, ?_⟩
          cases f <;> rfl
    · exact .inr hlong
  · rintro hlater w settings arguments request stamp hload hrequest rfl rfl
    obtain ⟨e, hresult⟩ : ∃ e, (Query.run (hostText request.host) request.path script).result =
        .error (.transport e) := by
      rcases hlater with rfl | ⟨f, rest, rfl⟩
      · exact hfails (.ended .disconnected)
      · exact hfails (.failed f rest)
    obtain ⟨hpasses, -⟩ := run_passesOn hload hrequest stamp script
    rw [hresult] at hpasses
    exact ⟨hpasses.2, hpasses.1⟩

/-- A reply up to the middle of its second chunk, cut inside a line end. -/
def samplePieces : List (List UInt8) :=
  [sampleReply.bytes.take 45, (sampleReply.bytes.drop 45).take 55]

theorem sampleReply_cutShort : sampleReply.CutShort samplePieces :=
  ⟨Framing.noConfusion, sampleReply.bytes.drop 100, by decide +kernel, by decide +kernel⟩

/-- The rest of the reply does not come in time. -/
theorem result_of_cutShort_sample :
    (Query.run "10.0.0.7".toList "/state".toList
        ⟨none, none, dataItems samplePieces ++ [.failure .timeout]⟩).result =
        .error (.transport (.reading .timeout)) ∧
      ((start sampleSurroundings).run [] ["/state".toList]
        ⟨none, none, dataItems samplePieces ++ [.failure .timeout]⟩).ending = .code 1 := by
  have hreaches : Query.Reaches "10.0.0.7".toList "/state".toList
      ⟨none, none, dataItems samplePieces ++ [.failure .timeout]⟩
      ⟨"http".toList, [], "10.0.0.7".toList, some 8080, "/state".toList, none, none⟩ :=
    ⟨rfl, rfl, by decide⟩
  have hload : (Settings.load [] sampleSurroundings).result =
      .ok { Settings.default with logLevel := .debug, collectorHost := "10.0.0.7" } := rfl
  obtain ⟨-, hfailed, hcommand⟩ := result_of_cutShort hreaches sampleReply_cutShort rfl
  constructor
  · rcases hfailed .timeout [] rfl with ⟨hresult, -⟩ | ⟨-, hlong⟩
    · exact hresult
    · exact absurd sampleReply_fits hlong
  · exact (hcommand (.inr ⟨.timeout, [], rfl⟩) sampleSurroundings _ ["/state".toList]
      ⟨.named "10.0.0.7".toList, "/state".toList⟩ [] hload rfl rfl rfl).1

/-! ## A head that is too long to wait for -/

theorem announces_longFields :
    Announces ([longField, .ofLength 0].map FieldText.field) (.counted 0) := by
  have hlengths : valuesOf "content-length" [longField.field] = [] := by
    rw [Framing.valuesOf_cons_of_not_isNamed (by decide +kernel)]
    rfl
  have hcodings : valuesOf "transfer-encoding" [longField.field] = [] := by
    rw [Framing.valuesOf_cons_of_not_isNamed (by decide +kernel)]
    rfl
  exact FieldText.announces_ofLength (by decide) hlengths hcodings

/-- A head with a field that is too long, of a reply without a body. -/
def longHead : HeadText :=
  { sampleHead with
    fields := [longField, .ofLength 0]
    framing := .counted 0
    announces := announces_longFields }

/-- The reply with this head. -/
def longReply : Reply where
  infos := []
  final := longHead
  body := .counted []
  isInformational_of_mem := by decide
  status_final := by decide +kernel
  framing_final := rfl
  uncoded := by
    show valuesOf "content-encoding" ([longField, .ofLength 0].map FieldText.field) = []
    rw [List.map_cons, Framing.valuesOf_cons_of_not_isNamed (by decide +kernel)]
    decide +kernel

/-- The reply up to the end of the long value. -/
def longPart : List UInt8 := asciiBytes "HTTP/1.1 200 OK\r\nX:" ++ longValue

theorem longPart_append :
    longPart ++ asciiBytes "\r\nContent-Length:0\r\n\r\n" = longHead.bytes := by
  have hfront : longPart =
      longHead.statusLine.bytes ++ (longField.name ++ byte ':' :: longValue) := by
    have htext : asciiBytes "HTTP/1.1 200 OK\r\nX:" =
        longHead.statusLine.bytes ++ (longField.name ++ [byte ':']) := by decide +kernel
    rw [longPart, htext]
    simp only [List.append_assoc, List.cons_append, List.nil_append]
  have hback : asciiBytes "\r\nContent-Length:0\r\n\r\n" =
      lineEnd true ++ blockBytes ([.ofLength 0].flatMap FieldText.lines) true := by decide +kernel
  rw [HeadText.bytes_of_longField rfl, hfront, hback]
  rfl

/-- A wait for this reply is given up once that much has come. -/
theorem awaitHead_longPart (later : List Item) :
    (awaitHead [] [] (dataItems [longPart] ++ later) 0).result =
      .error (.protocol .tooLong) := by
  have hflatten : [longPart].flatten = longPart := by simp
  have hrow : longHead.bytes ++ [] = longReply.row.bytes := by
    rw [List.append_nil]
    exact (headBytes_nil longHead).symm
  have hpieces : [longPart].flatten ++ asciiBytes "\r\nContent-Length:0\r\n\r\n" =
      longHead.bytes := by
    rw [hflatten, longPart_append]
  have hlong : maxWaiting < [longPart].flatten.length := by
    rw [hflatten, longPart]
    exact maxWaiting_lt_length_longValue (by decide)
  exact HeadRow.awaitHead_long_first hrow hpieces (by decide) hlong later

theorem longReply_cutShort : longReply.CutShort [longPart] := by
  refine ⟨Framing.noConfusion, asciiBytes "\r\nContent-Length:0\r\n\r\n", by decide, ?_⟩
  have hbytes : longReply.bytes = longHead.bytes := by
    show headBytes [] longHead ++ [] = longHead.bytes
    rw [headBytes_nil, List.append_nil]
  rw [hbytes, ← longPart_append]
  simp only [List.flatten_cons, List.flatten_nil, List.append_nil]

/-- **A failure to read is not always reported as what it is**: not if a head is too long. -/
theorem not_forall_reading_of_cutShort :
    ¬ ∀ (host path : List Char) (script : Script) (u : Url) (r : Reply)
      (pieces : List (List UInt8)) (f : NetworkFailure) (rest : List Item),
      Query.Reaches host path script u → r.CutShort pieces →
      script.reply = dataItems pieces ++ .failure f :: rest →
      (Query.run host path script).result = .error (.transport (.reading f)) := by
  intro hall
  have hreaches : Query.Reaches "127.0.0.1".toList "/x".toList
      ⟨none, none, dataItems [longPart] ++ [.failure .timeout]⟩
      ⟨"http".toList, [], "127.0.0.1".toList, some 8080, "/x".toList, none, none⟩ :=
    ⟨rfl, rfl, by decide⟩
  have hclaimed := hall _ _ _ _ _ _ .timeout [] hreaches longReply_cutShort rfl
  obtain ⟨reads, hresult⟩ := Query.result_run hreaches
  rw [awaitHead_longPart] at hresult
  rw [hclaimed] at hresult
  cases hresult

end Session
end RouteProbe
