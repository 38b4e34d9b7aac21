import RouteProbe.Proofs.Session.Kept
import RouteProbe.Proofs.Session.Reconfigured

/-!
# What a run of the command leaves behind

A run of the command that has its settings keeps them and configures the log, whatever comes next
(`Session.settle`).  Then it either stops at its arguments and does nothing else, or it binds the
host for all events and makes its query, which leaves nothing but loggers that have been used.
There is nothing between the two: a run that stops binds nothing and asks for nothing, and a run
that goes on has the host bound however its query ends (`run_all_or_nothing`).
-/

namespace RouteProbe
namespace Session

open Log

variable {s s' : Session} {settings : Settings}

/-- The session once a run has its settings kept and the log configured. -/
def settle (s : Session) (stamp : List Char) (settings : Settings) : Session :=
  let s := (s.keptSettings stamp).session
  { s with log := s.log.configure settings }

/-- The session once the host of a request is bound. -/
def bindHost (s : Session) (r : Cli.Request) : Session :=
  { s with log := s.log.bind [(hostKey, hostValue r.host)] }

/-! ## The two ways of a run -/

/-- **A run that stops at its arguments** leaves the settled session as it is. -/
theorem run_of_stop (hoffered : s.offered = .ok settings) (stamp : List Char)
    {arguments : List Cli.Argument} {stop : Cli.Stop}
    (hstop : Cli.request settings.collectorHost.toList arguments = .error stop)
    (script : Network.Script) :
    let ran := s.run stamp arguments script
    ran.session = s.settle stamp settings ∧ ran.trace = .none ∧
      ((∃ code, ran.ending = .exit code) ∨ ∃ e, ran.ending = .help e) := by
  intro ran
  have hkept := (keptSettings_eq s stamp).1.trans hoffered
  cases stop with
  | help =>
      cases hhelp : Cli.help (s.settle stamp settings).lineWidth settings.collectorHost.toList with
      | ok text =>
          have hran : ran = .ended (s.settle stamp settings) (.exit 0) (Text.utf8 text)
              (s.keptSettings stamp).written .none := by
            rw [settle] at hhelp
            simp only [ran, run, settle, hkept, hstop, hhelp]
          rw [hran]
          exact ⟨rfl, rfl, .inl ⟨0, rfl⟩⟩
      | error e =>
          have hran : ran = .ended (s.settle stamp settings) (.help e) []
              (s.keptSettings stamp).written .none := by
            rw [settle] at hhelp
            simp only [ran, run, settle, hkept, hstop, hhelp]
          rw [hran]
          exact ⟨rfl, rfl, .inr ⟨e, rfl⟩⟩
  | wrong e =>
      have hran : ran = .ended (s.settle stamp settings) (.exit 2) []
          ((s.keptSettings stamp).written ++
            ⟨[], Cli.complaint (s.settle stamp settings).lineWidth e⟩) .none := by
        simp only [ran, run, settle, hkept, hstop]
      rw [hran]
      exact ⟨rfl, rfl, .inl ⟨2, rfl⟩⟩

/-- **A run that goes on** has the host bound in the settled session, and then nothing but loggers
used. -/
theorem run_of_request (hoffered : s.offered = .ok settings) (stamp : List Char)
    {arguments : List Cli.Argument} {r : Cli.Request}
    (hrequest : Cli.request settings.collectorHost.toList arguments = .ok r)
    (script : Network.Script) :
    let ran := s.run stamp arguments script
    LogsTo ((s.settle stamp settings).bindHost r) ran.session ∧
      (ran.ending = endingOf (Query.run (hostText r.host) r.path script).result ∨
        ∃ e, ran.ending = .query (.saying e)) := by
  intro ran
  have hkept := (keptSettings_eq s stamp).1.trans hoffered
  have hran : ran = (s.settle stamp settings).runRequest stamp (s.keptSettings stamp).written r
      script := run_eq_runRequest hkept hrequest script
  rw [hran]
  exact ⟨logsTo_runRequest _ stamp _ r script, ending_runRequest _ stamp _ r script⟩

/-! ## What both leave -/

/-- The settings are in force: they are kept, and the log is as they ask. -/
structure InForce (s : Session) (settings : Settings) : Prop where
  kept : s.settings? = some settings
  routed : s.log.routed = true
  root : LeavesRoot settings → s.log.tree.root = .ofSettings settings

theorem inForce_settle (hoffered : s.offered = .ok settings) (stamp : List Char) :
    (s.settle stamp settings).InForce settings where
  kept := (keptSettings_eq s stamp).2.trans (congrArg Except.toOption hoffered)
  routed := rfl
  root hleaves :=
    (Tree.root_configure _ settings).trans (if_neg (not_or.mpr hleaves))

theorem InForce.bindHost (h : s.InForce settings) (r : Cli.Request) :
    (s.bindHost r).InForce settings := ⟨h.kept, h.routed, h.root⟩

theorem InForce.logsTo (h : s.InForce settings) (hlogs : s.LogsTo s') : s'.InForce settings where
  kept := hlogs.settings?.trans h.kept
  routed := hlogs.routed.trans h.routed
  root hleaves := hlogs.root.trans (h.root hleaves)

/-- What is bound for all events is what was bound before. -/
theorem context_settle (s : Session) (stamp : List Char) (settings : Settings) :
    (s.settle stamp settings).log.context = s.log.context := context_keptSettings s stamp

/-- **A run of the command changes all that it should, or nothing.**  In every session with settings
that are kept or can be loaded, with whatever is bound for all events, a run with any arguments and
on any network has the settings kept and the log configured as they ask.  If it stops at its
arguments, to help or because they are wrong, nothing is asked of the network and what is bound for
all events is what was bound before.  If it goes on, then whatever comes of its query, what is bound
is what was bound before and the host that has been read under its name. -/
theorem run_all_or_nothing (hoffered : s.offered = .ok settings) (stamp : List Char)
    (arguments : List Cli.Argument) (script : Network.Script) :
    let ran := s.run stamp arguments script
    s.step stamp (.command arguments script) =
        (ran.session, .ran ran.ending ran.out ran.err ran.trace) ∧
      ran.session.InForce settings ∧ ran.session.surroundings = s.surroundings ∧
      (∀ stop, Cli.request settings.collectorHost.toList arguments = .error stop →
        ((∃ code, ran.ending = .exit code) ∨ ∃ e, ran.ending = .help e) ∧ ran.trace = .none ∧
          ran.session.log.context = s.log.context) ∧
      ∀ r, Cli.request settings.collectorHost.toList arguments = .ok r →
        (ran.ending = endingOf (Query.run (hostText r.host) r.path script).result ∨
            ∃ e, ran.ending = .query (.saying e)) ∧
          ran.session.log.context = s.log.context.put hostKey (hostValue r.host) ∧
          ∀ k, ran.session.log.context.get? k =
            if k = hostKey then some (hostValue r.host) else s.log.context.get? k := by
  intro ran
  have hsettled := inForce_settle hoffered stamp
  have hcontext := context_settle s stamp settings
  refine ⟨rfl, ?_, surroundings_run s stamp arguments script, fun stop hstop => ?_,
    fun r hrequest => ?_⟩
  · cases hrequest : Cli.request settings.collectorHost.toList arguments with
    | error stop =>
        obtain ⟨hsession, -, -⟩ := run_of_stop hoffered stamp hrequest script
        show (s.run stamp arguments script).session.InForce settings
        rw [hsession]
        exact hsettled
    | ok r =>
        obtain ⟨hlogs, -⟩ := run_of_request hoffered stamp hrequest script
        exact (hsettled.bindHost r).logsTo hlogs
  · obtain ⟨hsession, htrace, hending⟩ := run_of_stop hoffered stamp hstop script
    exact ⟨hending, htrace, (congrArg (fun s : Session => s.log.context) hsession).trans hcontext⟩
  · obtain ⟨hlogs, hending⟩ := run_of_request hoffered stamp hrequest script
    have hbound : ran.session.log.context = s.log.context.put hostKey (hostValue r.host) := by
      rw [hlogs.context]
      exact congrArg (Members.put · hostKey (hostValue r.host)) hcontext
    refine ⟨hending, hbound, fun k => ?_⟩
    rw [hbound, Members.get?_put]
    by_cases hk : k = hostKey
    · rw [if_pos hk, if_pos hk.symm]
    · rw [if_neg hk, if_neg (Ne.symm hk)]

/-- A session with a value bound for all events, after a first run that no one has answered. -/
def onceRun : Session :=
  (run ((start ⟨[], none⟩).after [([], .bind [("job", .text "nightly")])]) []
    ["--host".toList, "10.0.0.7".toList] ⟨some .refused, none, []⟩).session

/-- Help leaves the host of the first run bound, and another request binds its own. -/
theorem run_all_or_nothing_twice :
    (onceRun.run [] ["-h".toList] ⟨some .refused, none, []⟩).session.log.context.get? hostKey =
        some (.text "10.0.0.7") ∧
      let ran := onceRun.run [] ["--host".toList, "10.0.0.8".toList] ⟨some .refused, none, []⟩
      ran.session.log.context.get? hostKey = some (.text "10.0.0.8") ∧
        ran.session.log.context.get? "job" = some (.text "nightly") ∧
        ran.session.log.tree.root = ⟨20, true, some ⟨.info, .development⟩⟩ := by
  have hhelp : Cli.request "127.0.0.1".toList ["-h".toList] = .error .help := rfl
  have hfirst : Cli.request "127.0.0.1".toList ["--host".toList, "10.0.0.7".toList] =
      .ok ⟨.named "10.0.0.7".toList, "/profile".toList⟩ := rfl
  have hsecond : Cli.request "127.0.0.1".toList ["--host".toList, "10.0.0.8".toList] =
      .ok ⟨.named "10.0.0.8".toList, "/profile".toList⟩ := rfl
  have hloaded : ((start ⟨[], none⟩).after [([], .bind [("job", .text "nightly")])]).offered =
      .ok Settings.default := rfl
  obtain ⟨-, hinForce, -, -, hasked⟩ := run_all_or_nothing hloaded []
    ["--host".toList, "10.0.0.7".toList] ⟨some .refused, none, []⟩
  obtain ⟨-, -, hbound⟩ := hasked _ hfirst
  have hoffered : onceRun.offered = .ok Settings.default := by
    rw [offered, onceRun, hinForce.kept, keptOrLoaded]
  obtain ⟨-, -, -, hstop, -⟩ := run_all_or_nothing hoffered [] ["-h".toList]
    ⟨some .refused, none, []⟩
  obtain ⟨-, hinForce', -, -, hasked'⟩ := run_all_or_nothing hoffered []
    ["--host".toList, "10.0.0.8".toList] ⟨some .refused, none, []⟩
  obtain ⟨-, -, hagain⟩ := hasked' _ hsecond
  obtain ⟨-, -, hcontext⟩ := hstop _ hhelp
  refine ⟨?_, ?_, ?_, hinForce'.root (by decide)⟩
  · rw [hcontext]
    exact (hbound hostKey).trans (if_pos rfl)
  · exact (hagain hostKey).trans (if_pos rfl)
  · exact (hagain "job").trans ((if_neg (by decide)).trans
      ((hbound "job").trans (if_neg (by decide))))

end Session
end RouteProbe
