import Mathlib.Data.List.DropRight
import RouteProbe.Proofs.Log.Once
import RouteProbe.Proofs.Query.Release
import RouteProbe.Proofs.Session.Ending
import RouteProbe.Proofs.Session.History

/-!
# Settings that are kept

Two steps ask for the settings that are kept: the one that shows them, and the command.  They get
what is kept, and else what can be loaded at that time (`Session.offered`), which is kept from then
on if it could be loaded.  Forgetting empties the place, and no other step touches it
(`settings?_step`).

So what is kept after a history is told by the steps since the last forgetting alone: it is what the
first of them got that asked and could load (`settings?_after`), whatever the surroundings have
become since.  What the two steps come to in any session follows (`kept_of_history`).  The command
depends on the history in two more ways.  If a name that is kept for the way to a handler has been
bound for all events, it can fail to say what it has to say; and if a variable has been set that
tells the client of a proxy, its query can go there (`not_forall_ending_run_eq`).
-/

namespace RouteProbe
namespace Session

open Log

variable {s : Session} {client : Client}

/-! ## What the settings that are kept are -/

/-- The settings that are kept. -/
def settings? (s : Session) : Option Settings := s.kept.map Kept.settings

/-- What is got by asking: the settings that are kept, or what is loaded if there are none. -/
def keptOrLoaded (kept : Option Settings) (w : Surroundings) : Except Settings.LoadError Settings :=
  match kept with
  | some settings => .ok settings
  | none => (Settings.load [] w).result

/-- What a step that asks gets. -/
def offered (s : Session) : Except Settings.LoadError Settings :=
  keptOrLoaded s.settings? s.surroundings

/-- Settings that can be loaded. -/
def loadable (w : Surroundings) : Option Settings := (Settings.load [] w).result.toOption

theorem toOption_keptOrLoaded (kept : Option Settings) (w : Surroundings) :
    (keptOrLoaded kept w).toOption = kept.or (loadable w) := by
  cases kept <;> rfl

theorem LogsTo.settings? {s' : Session} (h : s.LogsTo s') : s'.settings? = s.settings? := by
  rw [Session.settings?, h.kept]
  rfl

/-- **Asking gets what is kept, or what is loaded**, and that is kept then. -/
theorem keptSettings_eq (s : Session) (stamp : List Char) :
    (s.keptSettings stamp).result = s.offered ∧
      (s.keptSettings stamp).session.settings? = s.offered.toOption := by
  rw [keptSettings, offered]
  cases hkept : s.kept with
  | some k =>
      have hsettings : s.settings? = some k.settings := by rw [settings?, hkept, Option.map_some]
      rw [hsettings]
      exact ⟨rfl, rfl⟩
  | none =>
      have hsettings : s.settings? = none := by rw [settings?, hkept, Option.map_none]
      have hresult : (s.load stamp []).result = (Settings.load [] s.surroundings).result := rfl
      rw [hsettings, keptOrLoaded]
      dsimp only
      cases hload : (Settings.load [] s.surroundings).result with
      | error e =>
          rw [hload] at hresult
          simp only [hresult]
          exact ⟨trivial, (logsTo_load s stamp []).settings?.trans hsettings⟩
      | ok settings =>
          rw [hload] at hresult
          simp only [hresult]
          exact ⟨trivial, rfl⟩

/-! ## Steps -/

/-- A step asks for the settings that are kept. -/
def Step.asks : Step → Bool
  | .keptSettings | .command _ _ => true
  | _ => false

/-- A step forgets the settings that are kept. -/
def Step.forgets : Step → Bool
  | .forget => true
  | _ => false

theorem eq_forget_of_forgets {t : Step} (h : t.forgets = true) : t = .forget := by
  cases t with
  | forget => rfl
  | _ => cases h

theorem settings?_run (s : Session) (stamp : List Char) (arguments : List Cli.Argument)
    (script : Network.Script) :
    (s.run stamp arguments script client).session.settings? = s.offered.toOption := by
  have hkept := (keptSettings_eq s stamp).2
  rw [run]
  dsimp only
  split
  · exact hkept
  · split
    · split <;> exact hkept
    · exact hkept
    · exact (logsTo_runRequest _ stamp _ _ script).settings?.trans hkept

theorem serve_eq (s : Session) (stamp : List Char) :
    (s.serve stamp).1.settings? = s.offered.toOption ∧
      ∃ same written, (s.serve stamp).2 = .kept s.offered same written := by
  obtain ⟨hresult, hkept⟩ := keptSettings_eq s stamp
  rw [serve, hresult]
  split
  · next settings k hsettings _ => exact ⟨hkept, _, _, by rw [hsettings]⟩
  · exact ⟨hkept, _, _, rfl⟩

/-- **What a step leaves of the settings that are kept**: a step that asks has what it got kept,
forgetting leaves none, and every other step leaves what there is. -/
theorem settings?_step (s : Session) (stamp : List Char) (t : Step) :
    (s.step stamp t client).1.settings? =
      if t.asks then s.offered.toOption else if t.forgets then none else s.settings? := by
  cases t with
  | setVariables changes => rfl
  | setFile text => rfl
  | settings given => exact (logsTo_load s stamp given).settings?
  | keptSettings => exact (serve_eq s stamp).1
  | forget => rfl
  | describe given => exact (logsTo_load s stamp given).settings?
  | configure given =>
      rw [step, configure]
      dsimp only
      split <;> exact (logsTo_load s stamp given).settings?
  | event call => exact (logsTo_event s stamp call).settings?
  | record logger weight template arguments => rfl
  | loggers names => rfl
  | bind ms => rfl
  | clear => rfl
  | context => rfl
  | query host path script => exact (logsTo_query s stamp host path script).settings?
  | command arguments script => exact settings?_run s stamp arguments script

/-! ## Histories -/

/-- What the first of some steps loads that asks and can load, in the surroundings of its time. -/
def firstLoaded (w : Surroundings) : History → Option Settings
  | [] => none
  | (_, t) :: history =>
      (if t.asks then loadable w else none).or (firstLoaded (t.surroundings w) history)

/-- **Steps that do not forget keep what there is**, or else what the first of them loads. -/
theorem settings?_after (s : Session) {history : History}
    (h : ∀ t ∈ history, t.2.forgets = false) :
    (s.after history client).settings? =
      s.settings?.or (firstLoaded s.surroundings history) := by
  induction history generalizing s with
  | nil => exact Option.or_none.symm
  | cons t history ih =>
      obtain ⟨hfirst, hrest⟩ := List.forall_mem_cons.mp h
      rw [after_cons, ih _ hrest, settings?_step, surroundings_step, hfirst, firstLoaded,
        ← Option.or_assoc]
      -- The rest of the history is the same on both sides; what is left is the first step.
      congr 1
      cases t.2.asks with
      | true => exact toOption_keptOrLoaded _ _
      | false => exact Option.or_none.symm

/-- The steps of a history up to the last one that forgets. -/
def History.old (history : History) : History := history.rdropWhile fun t => !t.2.forgets

/-- The steps of a history since the settings were last forgotten; all steps, if they never were. -/
def History.recent (history : History) : History := history.rtakeWhile fun t => !t.2.forgets

theorem History.old_append_recent (history : History) : history.old ++ history.recent = history :=
  List.rdropWhile_append_rtakeWhile

/-- A session that has just forgotten its settings has none. -/
theorem settings?_after_old (w : Surroundings) (history : History) :
    ((start w).after history.old client).settings? = none := by
  -- The last forgetting is found from the end of the history.
  induction history using List.reverseRecOn with
  | nil => rfl
  | append_singleton history t ih =>
      obtain ⟨stamp, t⟩ := t
      rw [History.old]
      cases hforgets : t.forgets with
      | false =>
          rw [List.rdropWhile_concat_pos _ _ _ (by rw [hforgets]; rfl)]
          exact ih
      | true =>
          rw [List.rdropWhile_concat_neg _ _ _ (by rw [hforgets]; exact Bool.false_ne_true),
            after_append]
          obtain rfl := eq_forget_of_forgets hforgets
          rfl

/-- **The settings that are kept after a history** are those that the first step loaded, since they
were last forgotten, that asked and could load. -/
theorem settings?_after_start (w : Surroundings) (history : History) :
    ((start w).after history client).settings? =
      firstLoaded (History.surroundings w history.old) history.recent := by
  have hrecent : ∀ t ∈ history.recent, t.2.forgets = false := fun t ht => by
    simpa using List.mem_rtakeWhile_imp ht
  have hstart : (start w).surroundings = w := rfl
  have hsplit : (start w).after history client =
      ((start w).after history.old client).after history.recent client := by
    rw [← after_append, history.old_append_recent]
  rw [hsplit, settings?_after _ hrecent, settings?_after_old, surroundings_after, hstart,
    Option.none_or]

/-! ## Runs of the command -/

/-- What a query leaves for standard output. -/
def bodyOf (result : Except QueryError (List UInt8)) : List UInt8 := result.toOption.getD []

theorem Run.PassesOn.out_eq {ran : Run} {result : Except QueryError (List UInt8)}
    (h : ran.PassesOn result) : ran.out = bodyOf result := by
  cases result with
  | ok body => exact h.2
  | error e => exact h.1

/-- Without settings a run of the command does nothing. -/
theorem run_of_error {stamp : List Char} {e : Settings.LoadError} (h : s.offered = .error e)
    (arguments : List Cli.Argument) (script : Network.Script) :
    let ran := s.run stamp arguments script client
    ran.ending = .settings e ∧ ran.out = [] ∧ ran.trace = .none := by
  intro ran
  obtain ⟨hresult, -⟩ := keptSettings_eq s stamp
  have hrun : ran = .ended (s.keptSettings stamp).session (.settings e) []
      (s.keptSettings stamp).written .none := by
    show s.run stamp arguments script client = _
    rw [run]
    simp only [hresult.trans h]
  rw [hrun]
  exact ⟨rfl, out_ended (out_keptSettings s stamp) _ _ _ _, rfl⟩

/-- With settings a run of the command configures the log as they ask, whatever its arguments. -/
theorem root_run {stamp : List Char} {settings : Settings} (h : s.offered = .ok settings)
    (arguments : List Cli.Argument) (script : Network.Script) :
    (s.run stamp arguments script client).session.log.tree.root =
      if "" ∈ settings.noisyModules ∨ "root" ∈ settings.noisyModules then .quiet
      else .ofSettings settings := by
  obtain ⟨hresult, -⟩ := keptSettings_eq s stamp
  have hroot := Tree.root_configure (s.keptSettings stamp).session.log.tree settings
  rw [run]
  dsimp only
  rw [hresult.trans h]
  dsimp only
  split
  · split <;> exact hroot
  · exact hroot
  · exact (logsTo_runRequest _ stamp _ _ script).root.trans hroot

/-- **The settings of a session, and what they decide.**  After any history, what is kept is what
the first step loaded, since the settings were last forgotten or since the start if they never were,
that asked and could load.  Showing the settings and running the command get that, and if there is
none, what can be loaded now; it is kept if it can be loaded, and nothing is kept if not.
Forgetting leaves nothing, and every other step leaves what is kept.

Without settings the command does nothing.  With settings it configures the log as they ask; and if
the command line is read in their terms, its ending, its standard output and what it does on the
network are those of the query of that command line, unless a name that is kept for the way to a
handler has been bound for all events.  This is so through every client that goes straight, if no
variable tells the client where to go or whom to trust when the command runs. -/
theorem kept_of_history (w : Surroundings) (history : History) {client : Client}
    (hclient : client.GoesStraight) :
    let s := (start w).after history client
    let kept := firstLoaded (History.surroundings w history.old) history.recent
    let offered := keptOrLoaded kept (History.surroundings w history)
    s.settings? = kept ∧
      (∀ stamp t, (s.step stamp t client).1.settings? =
        if t.asks then offered.toOption else if t.forgets then none else kept) ∧
      (∀ stamp, ∃ same written,
        (s.step stamp .keptSettings client).2 = .kept offered same written) ∧
      ∀ stamp arguments script, ∃ ran : Run,
        s.step stamp (.command arguments script) client =
          (ran.session, .ran ran.ending ran.out ran.err ran.trace) ∧
        (∀ e, offered = .error e → ran.ending = .settings e ∧ ran.out = [] ∧ ran.trace = .none) ∧
        ∀ settings, offered = .ok settings →
          (ran.session.log.tree.root =
            if "" ∈ settings.noisyModules ∨ "root" ∈ settings.noisyModules then .quiet
            else .ofSettings settings) ∧
          ∀ r, Cli.request settings.collectorHost.toList arguments = .ok r →
            (∀ k ∈ keptKeys, s.log.context.Lacks k) →
            Client.IsDirect (History.surroundings w history).vars →
            let query := Query.run (hostText r.host) r.path script
            ran.ending = endingOf query.result ∧ ran.out = bodyOf query.result ∧
              ran.trace = query.trace := by
  intro s kept offered
  have hkept : s.settings? = kept := settings?_after_start w history
  have hoffered : s.offered = offered := by
    show keptOrLoaded s.settings? ((start w).after history client).surroundings = _
    rw [hkept, surroundings_after]
    rfl
  refine ⟨hkept, fun stamp t => ?_, fun stamp => ?_, fun stamp arguments script =>
    ⟨s.run stamp arguments script client, rfl, fun e he => ?_, fun settings hsettings => ⟨?_, ?_⟩⟩⟩
  · rw [settings?_step, hoffered, hkept]
  · rw [← hoffered]
    exact (serve_eq s stamp).2
  · exact run_of_error (hoffered.trans he) arguments script
  · exact root_run (hoffered.trans hsettings) arguments script
  · intro r hrequest hlacks hdirect query
    have hvars : Client.IsDirect s.surroundings.vars := by
      rw [show s.surroundings = _ from surroundings_after (start w) history]
      exact hdirect
    obtain ⟨hpasses, htrace⟩ := run_passesOn_of_lacks
      ((keptSettings_eq s stamp).1.trans (hoffered.trans hsettings)) hlacks hrequest
      (hclient _ _ _ script hvars)
    exact ⟨hpasses.ending_eq, hpasses.out_eq, htrace⟩

/-- A history in which the settings cannot be loaded at first, are loaded by the command once the
surroundings have been repaired, and stay as they are when these change again. -/
def repairedHistory : History :=
  [([], .keptSettings),
    ([], .setVariables [("LOG_LEVEL", some "critical"), ("COLLECTOR_HOST", some "10.0.0.7")]),
    ([], .command ["/first".toList] ⟨some .refused, none, []⟩),
    ([], .setVariables [("LOG_LEVEL", none), ("COLLECTOR_HOST", some "10.0.0.8")])]

/-- The host of the first load that succeeded is asked, and no other. -/
theorem kept_of_repairedHistory :
    ∃ ran : Run,
      (((start ⟨[("LOG_LEVEL", "loud")], none⟩).after repairedHistory).step []
        (.command ["/state".toList] ⟨some .refused, none, []⟩)) =
          (ran.session, .ran ran.ending ran.out ran.err ran.trace) ∧
      ran.ending = .code 1 ∧ ran.out = [] ∧ ran.trace.connects = [("10.0.0.7".toList, 8080)] := by
  have hkept : firstLoaded (History.surroundings ⟨[("LOG_LEVEL", "loud")], none⟩
      repairedHistory.old) repairedHistory.recent =
        some { Settings.default with logLevel := .critical, collectorHost := "10.0.0.7" } := rfl
  have hrequest : Cli.request "10.0.0.7".toList ["/state".toList] =
      .ok ⟨.named "10.0.0.7".toList, "/state".toList⟩ := rfl
  have hasked : Query.askedUrl (Route.url (hostText (.named "10.0.0.7".toList))
      "/state".toList) =
      .ok ⟨"http".toList, [], "10.0.0.7".toList, some 8080, "/state".toList, none, none⟩ := rfl
  obtain ⟨-, -, -, hcommand⟩ := kept_of_history ⟨[("LOG_LEVEL", "loud")], none⟩ repairedHistory
    Client.goesStraight_plain
  obtain ⟨ran, hran, -, hsettings⟩ := hcommand [] ["/state".toList] ⟨some .refused, none, []⟩
  rw [hkept] at hsettings
  obtain ⟨-, hasks⟩ := hsettings _ rfl
  have hcontext : ((start ⟨[("LOG_LEVEL", "loud")], none⟩).after repairedHistory).log.context =
      [(hostKey, .text "10.0.0.7")] := rfl
  rw [hcontext] at hasks
  obtain ⟨hending, hout, htrace⟩ := hasks _ hrequest (by decide) (by decide)
  have hresult : (Query.run (hostText (.named "10.0.0.7".toList)) "/state".toList
      ⟨some .refused, none, []⟩).result = .error (.transport (.connecting .refused)) :=
    Query.result_run_of_connect hasked rfl
  refine ⟨ran, hran, ?_, ?_, ?_⟩
  · rw [hending, hresult]
    rfl
  · rw [hout, hresult]
    rfl
  · rw [htrace, Query.connects_run_of_askedUrl hasked]
    rfl

/-! ## A record that has been bound -/

/-- No event can be completed while a text is bound under the name of a record. -/
theorem complete_of_bound_record {c : Circumstances} {ms : Members} (hms : ms.IsWorded)
    (hcontext : c.context.IsWorded) (hbound : c.context.has recordKey = true) :
    complete c [] ms = .error (.noRecord "str") := by
  obtain ⟨v, hv⟩ := Members.exists_get?_complete ms (Members.has_sorted hbound)
  have hworded : (ms.complete c.context.sorted).IsWorded :=
    Members.forall_mem_complete hms (Members.forall_mem_sorted hcontext)
  obtain ⟨s, rfl⟩ := hworded.exists_of_get? (by decide) hv
  rw [complete, nameLogger, hv]
  rfl

/-- A run that cannot report the failure of its query ends in that error. -/
theorem ending_runRequest_of_unsaid {stamp : List Char} {before : Written} {r : Cli.Request}
    {script : Network.Script} {failure : QueryFailure} {level : Level} {text : String}
    {ms : Members} {e : CallError}
    (hquery : ({ s with log := s.log.bind [(hostKey, hostValue r.host)] }.query stamp
      (hostText r.host) r.path script).result = .error failure)
    (hreport : report r.path failure = some (level, text, ms))
    (hsaid : (({ s with log := s.log.bind [(hostKey, hostValue r.host)] }.query stamp
      (hostText r.host) r.path script).session.event stamp
        (eventCall commandLogger level text.toList ms)).result = .error e) :
    (s.runRequest stamp before r script).ending = .query (.saying e) := by
  simp only [runRequest, hquery, hreport, hsaid]
  rfl

/-- A history that binds a text under the name of a record. -/
def recordedHistory : History := [([], .bind [(recordKey, .text "x")])]

/-- What the query of such a session says itself is not taken, and then its failure cannot be
reported. -/
theorem ending_run_recorded :
    (((start ⟨[], none⟩).after recordedHistory).run [] ["/x".toList]
      ⟨some .refused, none, []⟩).ending = .query (.saying (.event (.noRecord "str"))) := by
  have hrequest : Cli.request Settings.default.collectorHost.toList ["/x".toList] =
      .ok ⟨.named "127.0.0.1".toList, "/x".toList⟩ := rfl
  have hshown : ∃ shown, report "/x".toList (.query (.transport (.connecting .refused))) =
      some (.error, "Collector unreachable", [("path", .text "/x"), ("error", .text shown)]) :=
    ⟨_, rfl⟩
  obtain ⟨shown, hreport⟩ := hshown
  rw [run_eq_runRequest rfl hrequest]
  refine ending_runRequest_of_unsaid rfl hreport ?_
  have hmembers : Members.IsWorded [("path", .text "/x"), ("error", .text shown),
      (textKey, .text "Collector unreachable")] := by simp [Members.IsWorded]
  have hcontext : Members.IsWorded [(recordKey, .text "x"), (hostKey, .text "127.0.0.1")] := by
    simp [Members.IsWorded]
  exact System.event_of_complete_error (m := ⟨.error, "error", false⟩) rfl rfl rfl rfl rfl
    (complete_of_bound_record hmembers hcontext rfl)

/-- A history that names a proxy. -/
def proxiedHistory : History :=
  [([], .setVariables [("HTTP_PROXY", some "http://10.0.0.9:3128")])]

/-- Through a client that goes there the query of such a session tries the proxy. -/
theorem connects_run_proxied :
    (((start ⟨[], none⟩).after proxiedHistory (.through ("10.0.0.9".toList, 3128))).run []
      ["/x".toList] ⟨some .refused, none, []⟩
      (.through ("10.0.0.9".toList, 3128))).trace.connects = [("10.0.0.9".toList, 3128)] := by
  decide +kernel

/-- **What the command comes to is not told by the settings alone**: its ending is not if a name
that is kept for the way to a handler has been bound for all events, and what it does on the network
is not if a variable names a proxy. -/
theorem not_forall_ending_run_eq :
    (¬ ∀ (w : Surroundings) (history history' : History) (settings : Settings)
      (arguments : List Cli.Argument) (r : Cli.Request) (script : Network.Script),
      ((start w).after history).offered = .ok settings →
      ((start w).after history').offered = .ok settings →
      Cli.request settings.collectorHost.toList arguments = .ok r →
      (((start w).after history).run [] arguments script).ending =
        (((start w).after history').run [] arguments script).ending) ∧
    ¬ ∀ (client : Client) (w : Surroundings) (history history' : History) (settings : Settings)
      (arguments : List Cli.Argument) (r : Cli.Request) (script : Network.Script),
      client.GoesStraight →
      ((start w).after history client).offered = .ok settings →
      ((start w).after history' client).offered = .ok settings →
      Cli.request settings.collectorHost.toList arguments = .ok r →
      (((start w).after history client).run [] arguments script client).trace =
        (((start w).after history' client).run [] arguments script client).trace := by
  have hrequest : Cli.request Settings.default.collectorHost.toList ["/x".toList] =
      .ok ⟨.named "127.0.0.1".toList, "/x".toList⟩ := rfl
  have hasked : Query.askedUrl (Route.url (hostText (.named "127.0.0.1".toList)) "/x".toList) =
      .ok ⟨"http".toList, [], "127.0.0.1".toList, some 8080, "/x".toList, none, none⟩ := rfl
  have hload : (Settings.load [] ⟨[], none⟩).result = .ok Settings.default := rfl
  refine ⟨fun hall => ?_, fun hall => ?_⟩
  · have hresult : (Query.run (hostText (.named "127.0.0.1".toList)) "/x".toList
        ⟨some .refused, none, []⟩).result = .error (.transport (.connecting .refused)) :=
      Query.result_run_of_connect hasked rfl
    obtain ⟨⟨-, hplain⟩, -⟩ : _ ∧ _ :=
      hresult ▸ run_passesOn hload hrequest [] ⟨some .refused, none, []⟩
    have hequal := hall ⟨[], none⟩ [] recordedHistory Settings.default ["/x".toList] _
      ⟨some .refused, none, []⟩ rfl rfl hrequest
    cases hplain.symm.trans (hequal.trans ending_run_recorded)
  · have hstraight := Client.goesStraight_through ("10.0.0.9".toList, 3128)
    have hdirect : Client.IsDirect (start ⟨[], none⟩).surroundings.vars := by decide
    obtain ⟨-, htrace⟩ := run_passesOn_of_lacks (keptSettings_start hload [])
      (fun k _ => Members.lacks_nil k) hrequest
      (hstraight _ _ _ ⟨some .refused, none, []⟩ hdirect)
    have hequal := hall _ ⟨[], none⟩ [] proxiedHistory Settings.default ["/x".toList] _
      ⟨some .refused, none, []⟩ hstraight rfl rfl hrequest
    have hplaces := congrArg Network.Trace.connects (htrace.symm.trans hequal)
    rw [Query.connects_run_of_askedUrl hasked, connects_run_proxied] at hplaces
    exact absurd hplaces (by decide)

end Session
end RouteProbe
