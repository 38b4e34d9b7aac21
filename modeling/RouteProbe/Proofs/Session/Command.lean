import RouteProbe.Proofs.Query.Reply
import RouteProbe.Proofs.Session.History
import RouteProbe.Proofs.Session.Saying
import RouteProbe.Session.Command

/-!
# What the command passes on

The command makes one query and passes on what comes of it.  A body becomes the whole of
standard output; an error leaves standard output empty and ends the command with 1, or, if it
is none that the command takes care of, goes on to the caller.  `Run.PassesOn` says this of a
run and a result, and a run of the command passes on what its query comes to
(`run_passesOn_of_lacks`), from the start of a session above all (`run_passesOn`).

Nothing that is logged on the way is in the way: the file of settings is complained about in
records, the log is configured before anything else is said, and the name under which the host
is bound is not reserved.
-/

namespace RouteProbe

open Log

/-- The error is one of the query itself, or of the network: the command reports it. -/
def QueryError.isReported : QueryError → Bool
  | .status _ | .url _ | .transport _ => true
  | _ => false

namespace Session

/-- A run passes on what came of a query: a body as standard output, an error as the ending. -/
def Run.PassesOn (ran : Run) : Except QueryError (List UInt8) → Prop
  | .ok body => ran.ending = .code 0 ∧ ran.out = body
  | .error e => ran.out = [] ∧
      ran.ending = if e.isReported then .code 1 else .query (.query e)

/-- A run that passes on what came of a query ends with 0 exactly if there is a body. -/
theorem Run.PassesOn.code_zero_iff {ran : Run} {result : Except QueryError (List UInt8)}
    (h : ran.PassesOn result) : ran.ending = .code 0 ↔ ∃ body, result = .ok body := by
  cases result with
  | ok body => exact ⟨fun _ => ⟨body, rfl⟩, fun _ => h.1⟩
  | error e =>
      refine ⟨fun hcode => ?_, fun ⟨_, hbody⟩ => by cases hbody⟩
      rw [h.2] at hcode
      split at hcode <;> cases hcode

/-- It ends with 1 exactly if there is an error that is reported. -/
theorem Run.PassesOn.code_one_iff {ran : Run} {result : Except QueryError (List UInt8)}
    (h : ran.PassesOn result) :
    ran.ending = .code 1 ↔ ∃ e, result = .error e ∧ e.isReported = true := by
  cases result with
  | ok body =>
      refine ⟨fun hcode => ?_, fun ⟨_, herror, _⟩ => by cases herror⟩
      rw [h.1] at hcode
      cases hcode
  | error e =>
      rw [h.2]
      constructor
      · intro hcode
        split at hcode
        · next hreported => exact ⟨e, rfl, hreported⟩
        · cases hcode
      · rintro ⟨_, ⟨⟩, hreported⟩
        rw [if_pos hreported]

variable {s : Session}

/-- If the log wrote nothing to standard output, only the body is there. -/
theorem out_ended {written : Written} (h : written.out = []) (s : Session) (ending : Ending)
    (body : List UInt8) (trace : Network.Trace) :
    (Run.ended s ending body written trace).out = body := by
  rw [Run.ended, h, Text.utf8_nil, List.nil_append]

/-- Every error that is reported has something to say about it, with no reserved name. -/
theorem report_of_isReported {e : QueryError} (h : e.isReported = true) (path : List Char) :
    ∃ level text ms, report path (.query e) = some (level, text, ms) ∧
      ∀ k ∈ reservedKeys, Members.Lacks ms k := by
  cases e with
  | status e => exact ⟨_, _, _, rfl, lacks_of_names ["error"] rfl (by decide)⟩
  | url e => exact ⟨_, _, _, rfl, lacks_of_names ["error"] rfl (by decide)⟩
  | transport e => exact ⟨_, _, _, rfl, lacks_of_names ["path", "error"] rfl (by decide)⟩
  | decoding e => cases h
  | domain e => cases h
  | reference e => cases h
  | notAscii e => cases h

theorem report_of_not_isReported {e : QueryError} (h : e.isReported = false) (path : List Char) :
    report path (.query e) = none := by
  cases e with
  | status e => cases h
  | url e => cases h
  | transport e => cases h
  | decoding e => rfl
  | domain e => rfl
  | reference e => rfl
  | notAscii e => rfl

/-- The log stays ready when the host is bound. -/
theorem isReady_bind_host (hs : s.log.IsReady) (host : Cli.HostChoice) :
    (s.log.bind [(hostKey, hostValue host)]).IsReady :=
  hs.bind (lacks_of_names [hostKey] rfl (by decide))

/-- **With a log that is ready, the query of a command line is passed on**, through every client
that annotates it. -/
theorem runRequest_passesOn (hs : s.log.IsReady) (stamp : List Char) {before : Written}
    (hbefore : before.out = []) {r : Cli.Request} {script : Network.Script} {client : Client}
    (hclient : (client s.surroundings.vars (hostText r.host) r.path script).Annotates
      (Query.run (hostText r.host) r.path script)) :
    (s.runRequest stamp before r script client).PassesOn
        (Query.run (hostText r.host) r.path script).result ∧
      (s.runRequest stamp before r script client).trace =
        (Query.run (hostText r.host) r.path script).trace := by
  have hbound : { s with log := s.log.bind [(hostKey, hostValue r.host)] }.log.IsReady :=
    isReady_bind_host hs r.host
  obtain ⟨hresult, htrace, hready, hout⟩ := query_through hbound stamp hclient
  have hwritten : (before ++ (({ s with log := s.log.bind [(hostKey, hostValue r.host)] } :
      Session).query stamp (hostText r.host) r.path script client).written).out = [] := by
    rw [Written.out_append, hbefore, hout]
    rfl
  cases hrun : (Query.run (hostText r.host) r.path script).result with
  | ok body =>
      have hbody := hresult.trans (mapError_eq_ok_iff.mpr hrun)
      simp only [runRequest, hbody]
      exact ⟨⟨rfl, out_ended hwritten _ _ _ _⟩, htrace⟩
  | error e =>
      have herror := hresult.trans (mapError_eq_error_iff.mpr ⟨e, hrun, rfl⟩)
      cases hreported : e.isReported with
      | false =>
          simp only [runRequest, herror, report_of_not_isReported hreported]
          refine ⟨⟨out_ended hwritten _ _ _ _, ?_⟩, htrace⟩
          rw [hreported]
          rfl
      | true =>
          obtain ⟨level, text, ms, hreport, hlacks⟩ := report_of_isReported hreported r.path
          have hsaid := isDone_event hready stamp
            (isPlain_eventCall commandLogger level text.toList hlacks)
          simp only [runRequest, herror, hreport, hsaid.result]
          refine ⟨⟨out_ended ?_ _ _ _ _, ?_⟩, htrace⟩
          · rw [Written.out_append, hwritten, hsaid.out]
            rfl
          · rw [hreported]
            rfl

/-! ## Settings -/

/-- What is complained about the file of settings is not written to standard output. -/
theorem out_complain (s : Session) (stamp : List Char) (lines : List Nat) :
    (s.complain stamp lines).2.out = [] := by
  induction lines generalizing s with
  | nil => rfl
  | cons line lines ih =>
      rw [complain]
      dsimp only
      rw [Written.out_append, System.out_record, ih]
      rfl

/-- Asking for the settings that are kept writes nothing to standard output. -/
theorem out_keptSettings (s : Session) (stamp : List Char) :
    (s.keptSettings stamp).written.out = [] := by
  rw [keptSettings]
  split
  · rfl
  · dsimp only
    split
    · exact out_complain s stamp _
    · exact out_complain s stamp _

/-- A session keeps the settings that can be loaded at its start. -/
theorem keptSettings_start {w : Surroundings} {settings : Settings}
    (h : (Settings.load [] w).result = .ok settings) (stamp : List Char) :
    ((start w).keptSettings stamp).result = .ok settings := by
  have hresult : ((start w).load stamp []).result = .ok settings := h
  rw [keptSettings]
  simp only [start] at hresult ⊢
  simp only [hresult]

/-! ## Runs -/

/-- A run whose arguments ask for a query makes it once the log is configured. -/
theorem run_eq_runRequest {stamp : List Char} {settings : Settings}
    (hkept : (s.keptSettings stamp).result = .ok settings) {arguments : List Cli.Argument}
    {r : Cli.Request} (hrequest : Cli.request settings.collectorHost.toList arguments = .ok r)
    (script : Network.Script) (client : Client := .plain) :
    s.run stamp arguments script client =
      runRequest { (s.keptSettings stamp).session with
        log := (s.keptSettings stamp).session.log.configure settings } stamp
        (s.keptSettings stamp).written r script client := by
  rw [run]
  simp only [hkept, hrequest]

/-- **A run of the command passes on what its query comes to**, in every session that has settings
and has bound none of the names that are kept, and through every client that annotates it. -/
theorem run_passesOn_of_lacks {stamp : List Char} {settings : Settings}
    (hkept : (s.keptSettings stamp).result = .ok settings)
    (hlacks : ∀ k ∈ keptKeys, s.log.context.Lacks k) {arguments : List Cli.Argument}
    {r : Cli.Request} (hrequest : Cli.request settings.collectorHost.toList arguments = .ok r)
    {script : Network.Script} {client : Client}
    (hclient : (client s.surroundings.vars (hostText r.host) r.path script).Annotates
      (Query.run (hostText r.host) r.path script)) :
    (s.run stamp arguments script client).PassesOn
        (Query.run (hostText r.host) r.path script).result ∧
      (s.run stamp arguments script client).trace =
        (Query.run (hostText r.host) r.path script).trace := by
  have hcontext := context_keptSettings s stamp
  have hsurroundings := surroundings_keptSettings s stamp
  have hready : ((s.keptSettings stamp).session.log.configure settings).IsReady :=
    System.isReady_configure (hcontext ▸ hlacks) settings
  rw [run_eq_runRequest hkept hrequest script client]
  exact runRequest_passesOn hready stamp (out_keptSettings s stamp) (hsurroundings ▸ hclient)

/-- A run of the command from the start of a session passes on what its query comes to. -/
theorem run_passesOn {w : Surroundings} {settings : Settings}
    (hload : (Settings.load [] w).result = .ok settings) {arguments : List Cli.Argument}
    {r : Cli.Request} (hrequest : Cli.request settings.collectorHost.toList arguments = .ok r)
    (stamp : List Char) (script : Network.Script) :
    ((start w).run stamp arguments script).PassesOn
        (Query.run (hostText r.host) r.path script).result ∧
      ((start w).run stamp arguments script).trace =
        (Query.run (hostText r.host) r.path script).trace :=
  run_passesOn_of_lacks (keptSettings_start hload stamp) (fun k _ => Members.lacks_nil k) hrequest
    (Client.annotates_plain _ _ _ script)

/-- **What the command comes to, by what its query comes to.**  It ends with 0 exactly if there
is a body, and then the body is all of standard output; it ends with 1 exactly if there is an
error that it reports, and every other error goes on to the caller; and without a body there is
nothing on standard output.  What is done on the network is what the query does. -/
theorem run_ending {w : Surroundings} {settings : Settings}
    (hload : (Settings.load [] w).result = .ok settings) {arguments : List Cli.Argument}
    {r : Cli.Request} (hrequest : Cli.request settings.collectorHost.toList arguments = .ok r)
    (stamp : List Char) (script : Network.Script) :
    let query := Query.run (hostText r.host) r.path script
    let ran := (start w).run stamp arguments script
    (ran.ending = .code 0 ↔ ∃ body, query.result = .ok body) ∧
      (∀ body, query.result = .ok body → ran.out = body) ∧
      (ran.ending = .code 1 ↔ ∃ e, query.result = .error e ∧ e.isReported = true) ∧
      (∀ e, query.result = .error e → e.isReported = false →
        ran.ending = .query (.query e)) ∧
      (ran.ending ≠ .code 0 → ran.out = []) ∧
      ran.trace = query.trace := by
  intro query ran
  obtain ⟨hpasses, htrace⟩ := run_passesOn hload hrequest stamp script
  change ran.PassesOn query.result at hpasses
  refine ⟨hpasses.code_zero_iff, fun body hbody => ?_, hpasses.code_one_iff, fun e he hnot => ?_,
    fun hcode => ?_, htrace⟩
  · rw [hbody] at hpasses
    exact hpasses.2
  · rw [he] at hpasses
    exact hpasses.2.trans (if_neg (Bool.not_eq_true _ ▸ hnot))
  · cases hresult : query.result with
    | ok body => exact absurd (hpasses.code_zero_iff.mpr ⟨body, hresult⟩) hcode
    | error e =>
        rw [hresult] at hpasses
        exact hpasses.1

/-- Surroundings with a malformed line in the file of settings, which names the host, and with
everything logged. -/
def sampleSurroundings : Surroundings :=
  ⟨[("LOG_LEVEL", "debug")], some "COLLECTOR_HOST=10.0.0.7\n=\n"⟩

/-- A body in two chunks is all that is written to standard output. -/
theorem run_ending_sample :
    ((start sampleSurroundings).run [] ["/state".toList]
        ⟨none, none, Network.dataItems [Http.sampleReply.bytes]⟩).ending = .code 0 ∧
      ((start sampleSurroundings).run [] ["/state".toList]
        ⟨none, none, Network.dataItems [Http.sampleReply.bytes]⟩).out =
        Http.asciiBytes "01234567890123456789" := by
  have hload : (Settings.load [] sampleSurroundings).result =
      .ok { Settings.default with logLevel := .debug, collectorHost := "10.0.0.7" } := rfl
  have hrequest : Cli.request "10.0.0.7".toList ["/state".toList] =
      .ok ⟨.named "10.0.0.7".toList, "/state".toList⟩ := rfl
  have hreaches : Query.Reaches (hostText (.named "10.0.0.7".toList)) "/state".toList
      ⟨none, none, Network.dataItems [Http.sampleReply.bytes]⟩
      ⟨"http".toList, [], "10.0.0.7".toList, some 8080, "/state".toList, none, none⟩ :=
    ⟨rfl, rfl, by decide⟩
  have hbytes : [Http.sampleReply.bytes].flatten = Http.sampleReply.bytes ++ [] := by simp
  have hquery := Query.run_eq_body_of_fits hreaches Http.sampleReply_fits
    (List.append_nil _).symm hbytes (.inl Http.Framing.noConfusion)
  have hcontent : Http.sampleReply.body.content = Http.asciiBytes "01234567890123456789" := by
    decide +kernel
  obtain ⟨hzero, hout, -⟩ := run_ending hload hrequest []
    ⟨none, none, Network.dataItems [Http.sampleReply.bytes]⟩
  exact ⟨hzero.mpr ⟨_, hquery⟩, hcontent ▸ hout _ hquery⟩

end Session
end RouteProbe
