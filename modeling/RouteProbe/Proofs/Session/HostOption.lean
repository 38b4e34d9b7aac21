import RouteProbe.Proofs.Cli.Pieces
import RouteProbe.Proofs.Session.Command
import RouteProbe.Proofs.Settings.Replaced

/-!
# The option for the host and the setting for it

The host of a query can be given on the command line or by the settings, and it does not matter
which (`run_host_option`).  Two things are behind this.  What a session says and asks hangs on its
log and on nothing else of it, so two sessions whose logs are the same go on in the same way
(`runRequest_same`); and neither loading settings nor configuring the log leaves the host that the
settings name in the log.  So a host that is not asked shows nowhere: not in the request, not in
what is logged, and not in what is bound for later events.
-/

namespace RouteProbe

open Log

namespace Session

variable {s t : Session}

/-! ## Sessions with the same log -/

/-- The same has been said, and the log is the same after it. -/
structure Said.SameAs (a b : Said) : Prop where
  result : a.result = b.result
  written : a.written = b.written
  log : a.session.log = b.session.log

/-- A query came to the same, and the log is the same after it. -/
structure Queried.SameAs (a b : Queried) : Prop where
  result : a.result = b.result
  written : a.written = b.written
  trace : a.trace = b.trace
  log : a.session.log = b.session.log

/-- Two runs of the command show the same, and the log is the same after them. -/
structure Run.SameAs (a b : Run) : Prop where
  ending : a.ending = b.ending
  out : a.out = b.out
  err : a.err = b.err
  trace : a.trace = b.trace
  log : a.session.log = b.session.log

theorem complain_same (h : s.log = t.log) (stamp : List Char) (lines : List Nat) :
    (s.complain stamp lines).1.log = (t.complain stamp lines).1.log ∧
      (s.complain stamp lines).2 = (t.complain stamp lines).2 := by
  induction lines generalizing s t with
  | nil => exact ⟨h, rfl⟩
  | cons line lines ih =>
      obtain ⟨hlog, hwritten⟩ := ih
        (s := { s with log := (s.log.record stamp fileLogger Level.warning.weight
          (.text (EnvFile.complaint line)) []).1 })
        (t := { t with log := (t.log.record stamp fileLogger Level.warning.weight
          (.text (EnvFile.complaint line)) []).1 }) (by rw [h])
      rw [complain, complain]
      refine ⟨hlog, ?_⟩
      dsimp only
      rw [hwritten, h]

theorem event_same (h : s.log = t.log) (stamp : List Char) (c : Call) :
    (s.event stamp c).SameAs (t.event stamp c) := by
  rw [event, event, h]
  exact ⟨rfl, rfl, rfl⟩

theorem recordText_same (h : s.log = t.log) (stamp : List Char) (logger : Name) (level : Level)
    (text : List Char) :
    (s.recordText stamp logger level text).SameAs (t.recordText stamp logger level text) := by
  rw [recordText, recordText, h]
  exact ⟨rfl, rfl, rfl⟩

theorem say_same (h : s.log = t.log) (stamp : List Char) (n : Notice) :
    (s.say stamp n).SameAs (t.say stamp n) := by
  cases n with
  | event level text ms => exact event_same h stamp _
  | exchanged text => exact recordText_same h stamp clientLogger .info text
  | traced logger text => exact recordText_same h stamp logger .debug text
  | warned text => exact ⟨rfl, rfl, h⟩

/-- Notices that are said in turn are said in the same way. -/
theorem sayAll_same (h : s.log = t.log) (stamp : List Char) (ns : List Notice) :
    (s.sayAll stamp ns).SameAs (t.sayAll stamp ns) := by
  induction ns generalizing s t with
  | nil => exact ⟨rfl, rfl, h⟩
  | cons n ns ih =>
      have hfirst := say_same h stamp n
      have hmore := ih hfirst.log
      rw [sayAll, sayAll]
      dsimp only
      rw [hfirst.result]
      cases (t.say stamp n).result with
      | error e => exact hfirst
      | ok _ =>
          refine ⟨hmore.result, ?_, hmore.log⟩
          show _ ++ _ = _ ++ _
          rw [hfirst.written, hmore.written]

/-- A query hangs on the log of its session only. -/
theorem query_same (h : s.log = t.log) (stamp host path : List Char) (script : Network.Script) :
    (s.query stamp host path script).SameAs (t.query stamp host path script) := by
  have hfirst := sayAll_same h stamp ((Query.run host path script).notices.take 1)
  have hmore := sayAll_same hfirst.log stamp ((Query.run host path script).notices.drop 1)
  rw [query, query]
  dsimp only [Client.plain]
  rw [hfirst.result, hmore.result, hfirst.written, hmore.written]
  cases (t.sayAll stamp ((Query.run host path script).notices.take 1)).result with
  | error e => exact ⟨rfl, rfl, rfl, hfirst.log⟩
  | ok _ =>
      cases ((t.sayAll stamp ((Query.run host path script).notices.take 1)).session.sayAll stamp
        ((Query.run host path script).notices.drop 1)).result with
      | error e => exact ⟨rfl, rfl, rfl, hmore.log⟩
      | ok _ => exact ⟨rfl, rfl, rfl, hmore.log⟩

theorem ended_same (h : s.log = t.log) (ending : Ending) (body : List UInt8) (written : Written)
    (trace : Network.Trace) :
    (Run.ended s ending body written trace).SameAs (Run.ended t ending body written trace) :=
  ⟨rfl, rfl, rfl, rfl, h⟩

/-- **What a command line asks for comes to the same** if the log is the same. -/
theorem runRequest_same (h : s.log = t.log) (stamp : List Char) (before : Written)
    (r : Cli.Request) (script : Network.Script) :
    (s.runRequest stamp before r script).SameAs (t.runRequest stamp before r script) := by
  have hquery := query_same (s := { s with log := s.log.bind [(hostKey, hostValue r.host)] })
    (t := { t with log := t.log.bind [(hostKey, hostValue r.host)] }) (by rw [h]) stamp
    (hostText r.host) r.path script
  rw [runRequest, runRequest]
  dsimp only
  rw [hquery.result, hquery.written, hquery.trace]
  cases ({ t with log := t.log.bind [(hostKey, hostValue r.host)] }.query stamp
      (hostText r.host) r.path script).result with
  | ok body => exact ended_same hquery.log _ _ _ _
  | error failure =>
      dsimp only
      cases report r.path failure with
      | none => exact ended_same hquery.log _ _ _ _
      | some said =>
          obtain ⟨level, text, ms⟩ := said
          have hsaid := event_same hquery.log stamp (eventCall commandLogger level text.toList ms)
          dsimp only
          rw [hsaid.result, hsaid.written]
          cases (({ t with log := t.log.bind [(hostKey, hostValue r.host)] }.query stamp
            (hostText r.host) r.path script).session.event stamp
              (eventCall commandLogger level text.toList ms)).result with
          | ok _ => exact ended_same hsaid.log _ _ _ _
          | error e => exact ended_same hsaid.log _ _ _ _

/-! ## Runs -/

/-- Keeping settings at the start of a session complains about the file and does no more to the
log. -/
theorem keptSettings_start_complain {w : Surroundings} {settings : Settings}
    (h : (Settings.load [] w).result = .ok settings) (stamp : List Char) :
    ((start w).keptSettings stamp).session.log =
        ((start w).complain stamp (EnvFile.malformedLines w.statements)).1.log ∧
      ((start w).keptSettings stamp).written =
        ((start w).complain stamp (EnvFile.malformedLines w.statements)).2 := by
  have hresult : ((start w).load stamp []).result = .ok settings := h
  rw [keptSettings]
  simp only [start] at hresult ⊢
  simp only [hresult]
  exact ⟨rfl, rfl⟩

/-- A run asks the host of the option, whatever the settings name. -/
theorem request_attached (defaultHost : List Char) {host path : List Char}
    (hhost : host ≠ Cli.optionsEnd) (hpath : path.head? ≠ some '-') :
    Cli.request defaultHost ["--host=".toList ++ host, path] = .ok ⟨.named host, path⟩ := by
  have hplain : ∀ p ∈ [Cli.Piece.attached host, .path path], p.IsPlain := by
    intro p hp
    rcases List.mem_pair.mp hp with rfl | rfl
    · exact hhost
    · exact hpath
  exact Cli.request_pieces defaultHost hplain

/-- A run without the option asks the host of the settings. -/
theorem request_path (defaultHost : List Char) {path : List Char} (hpath : path.head? ≠ some '-') :
    Cli.request defaultHost [path] = .ok ⟨.named defaultHost, path⟩ := by
  have hplain : ∀ p ∈ [Cli.Piece.path path], p.IsPlain := by
    intro p hp
    rw [List.mem_singleton.mp hp]
    exact hpath
  exact Cli.request_pieces defaultHost hplain

/-- **The option for the host and the setting for it come to the same.**  Let settings be loaded
from some surroundings, with any host, and let others say the same of all other settings and name
this host: then the command ends in the same way with the option in the first as without it in the
second, writes the same to standard output and to standard error, does the same on the network, and
leaves the same log. -/
theorem run_host_option {w w' : Surroundings} {settings : Settings}
    (hload : (Settings.load [] w).result = .ok settings)
    (halike : Settings.AlikeBut .collectorHost w w') {host path : List Char}
    (hgiven : (w'.text? .environment Settings.Field.collectorHost.name).or
      (w'.text? .file Settings.Field.collectorHost.name) = some (String.ofList host))
    (hne : host ≠ []) (hstripped : Text.trim host = host) (hhost : host ≠ Cli.optionsEnd)
    (hpath : path.head? ≠ some '-') (stamp : List Char) (script : Network.Script) :
    ((start w).run stamp ["--host=".toList ++ host, path] script).SameAs
      ((start w').run stamp [path] script) := by
  have hishost : Settings.IsHost host := ⟨hne, hstripped ▸ Text.isTrimmed_trim host⟩
  have hload' := Settings.load_of_alikeBut_host hload halike hishost hgiven
  have hrequest := request_attached settings.collectorHost.toList hhost hpath
  have hrequest' : Cli.request (String.ofList host).toList [path] = .ok ⟨.named host, path⟩ := by
    rw [String.toList_ofList]
    exact request_path host hpath
  obtain ⟨hlog, hwritten⟩ := keptSettings_start_complain hload stamp
  obtain ⟨hlog', hwritten'⟩ := keptSettings_start_complain hload' stamp
  obtain ⟨hsame, hsaid⟩ := complain_same (s := start w) (t := start w') rfl stamp
    (EnvFile.malformedLines w.statements)
  rw [halike.malformed] at hlog' hwritten'
  rw [run_eq_runRequest (keptSettings_start hload stamp) hrequest,
    run_eq_runRequest (keptSettings_start hload' stamp) hrequest', hwritten, hwritten', hsaid]
  refine runRequest_same ?_ stamp _ _ script
  -- The host of the settings is no part of what they ask of the log.
  show Log.System.configure _ settings = Log.System.configure _ _
  rw [hlog, hlog', hsame]
  rfl

/-- A host that looks like an option with a value, in place of one that the settings name.  There is
a line in the file that cannot be read, and everything is logged. -/
theorem run_host_option_hyphen :
    let w : Surroundings := ⟨[("COLLECTOR_HOST", "10.0.0.7"), ("LOG_LEVEL", "debug")], some "=\n"⟩
    ((start w).run [] ["--host=--a=b %s/?".toList, "/state".toList]
        ⟨some .refused, none, []⟩).SameAs
      ((start (w.set "COLLECTOR_HOST" (some "--a=b %s/?"))).run [] ["/state".toList]
        ⟨some .refused, none, []⟩) := by
  intro w
  have hload : (Settings.load [] w).result =
      .ok { Settings.default with logLevel := .debug, collectorHost := "10.0.0.7" } := rfl
  have hrefers : ¬ Settings.RefersTo w Settings.Field.collectorHost.name := by
    rintro ⟨t, ht, hbinds, -⟩
    have hstatements : w.statements = [.malformed 1] := rfl
    rw [hstatements, List.mem_singleton] at ht
    rw [ht] at hbinds
    cases hbinds
  have halike := Settings.alikeBut_set hrefers (some "--a=b %s/?")
  have hvariable := Settings.text?_set w Settings.Field.collectorHost.name "--a=b %s/?"
  have hgiven : ((w.set "COLLECTOR_HOST" (some "--a=b %s/?")).text? .environment
      Settings.Field.collectorHost.name).or ((w.set "COLLECTOR_HOST" (some "--a=b %s/?")).text?
        .file Settings.Field.collectorHost.name) = some (String.ofList "--a=b %s/?".toList) := by
    rw [String.ofList_toList]
    exact (congrArg (Option.or · _) hvariable).trans Option.some_or
  exact run_host_option hload halike hgiven (by decide) (by decide) (by decide) (by decide) [] _

end Session
end RouteProbe
