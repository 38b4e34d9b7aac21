import RouteProbe.Proofs.Log.Gathered
import RouteProbe.Proofs.Session.Kept
import RouteProbe.Proofs.Session.Reconfigured

/-!
# Logs that sessions have asked for

Two steps configure the log of a session: the one that does nothing else, with settings that it
loads, and the command, with those that are kept.  So the settings that a log has been asked to
follow are told by its history, in turn (`History.asked`).

Whatever the steps of a session do, its log is only ever used, bound, cleared and configured with
those settings (`past_after`), since each step does nothing else (`past_step`).  So what these four
preserve holds of the log of every session.  In particular the log follows the last of the settings,
nothing has been said about the loggers beyond the noisy modules of all of them, and the names that
are bound for all events differ (`Past.hasAsked`); and its tree is one that has grown by just this
(`Past.isGrown`).
-/

namespace RouteProbe

open Log

/-- Where a log stands that has been asked to follow some settings in turn. -/
structure Log.System.HasAsked (s : System) (asked : List Settings) : Prop where
  names : (s.context.map (·.1)).Nodup
  spares : s.tree.Spares (asked.flatMap noisyNames)
  latest : ∀ settings, asked.getLast? = some settings → s.Follows settings

/-- A log as it can have become: loggers have been used, members have been bound for all events and
forgotten, and it has been configured with some settings in turn. -/
inductive Log.System.Past : List Settings → System → Prop where
  | initial : Past [] .initial
  | use {asked : List Settings} {s : System} (h : Past asked s) (n : Name) :
      Past asked { s with tree := s.tree.use n }
  | bind {asked : List Settings} {s : System} (h : Past asked s) (ms : Members) :
      Past asked (s.bind ms)
  | clear {asked : List Settings} {s : System} (h : Past asked s) : Past asked s.clear
  | configure {asked : List Settings} {s : System} (h : Past asked s) (settings : Settings) :
      Past (asked ++ [settings]) (s.configure settings)

namespace Log.System

variable {s : System} {asked : List Settings}

theorem hasAsked_initial : initial.HasAsked [] where
  names := List.nodup_nil
  spares := Tree.spares_initial
  latest _ h := nomatch h

theorem HasAsked.use (h : s.HasAsked asked) (n : Name) :
    { s with tree := s.tree.use n }.HasAsked asked where
  names := h.names
  spares := h.spares.use n
  latest settings hlast := (h.latest settings hlast).use n

theorem HasAsked.bind (h : s.HasAsked asked) (ms : Members) : (s.bind ms).HasAsked asked where
  names := Members.nodup_update h.names ms
  spares := h.spares
  latest settings hlast :=
    ⟨(h.latest settings hlast).routed, (h.latest settings hlast).root,
      (h.latest settings hlast).pinned⟩

theorem HasAsked.clear (h : s.HasAsked asked) : s.clear.HasAsked asked where
  names := List.nodup_nil
  spares := h.spares
  latest settings hlast :=
    ⟨(h.latest settings hlast).routed, (h.latest settings hlast).root,
      (h.latest settings hlast).pinned⟩

/-- Configuring the log adds the settings to those so far. -/
theorem HasAsked.configure (h : s.HasAsked asked) (settings : Settings) :
    (s.configure settings).HasAsked (asked ++ [settings]) where
  names := h.names
  spares := h.spares.configure_asked settings
  latest settings' hlast := by
    rw [List.getLast?_concat] at hlast
    rw [← Option.some.inj hlast]
    exact follows_configure s settings

/-- **Whatever a log has become, it is as it has been asked to be.** -/
theorem Past.hasAsked (h : Past asked s) : s.HasAsked asked := by
  induction h with
  | initial => exact hasAsked_initial
  | use _ n ih => exact ih.use n
  | bind _ ms ih => exact ih.bind ms
  | clear _ ih => exact ih.clear
  | configure _ settings ih => exact ih.configure settings

/-- The tree of a log has grown, whatever the log has become. -/
theorem Past.isGrown (h : Past asked s) : s.tree.IsGrown := by
  induction h with
  | initial => exact Tree.isGrown_initial
  | use _ n ih => exact ih.use n
  | bind _ _ ih => exact ih
  | clear _ ih => exact ih
  | configure _ settings ih => exact ih.configure settings

/-- A logger beyond the noisy modules of all settings so far feeds the handler of the latest, if
they leave the root as it is. -/
theorem HasAsked.feeds (h : s.HasAsked asked) {settings : Settings}
    (hlatest : asked.getLast? = some settings) (hleaves : Session.LeavesRoot settings) {n : Name}
    (hbeyond : ∀ settings ∈ asked, ¬ n.IsWithin (noisyNames settings)) :
    (s.tree.use n).Feeds n ⟨settings.logLevel, settings.environment⟩ :=
  have hroot : (s.tree.use n).root = .ofSettings settings :=
    ((h.latest settings hlatest).use n).root.trans (if_neg (not_or.mpr hleaves))
  (h.spares.use n).feeds_asked hroot hbeyond

end Log.System

namespace Session

/-- The settings that a step of a session asks the log to follow. -/
def Step.asked (s : Session) : Step → Option Settings
  | .configure given => (Settings.load given s.surroundings).result.toOption
  | .command _ _ => s.offered.toOption
  | _ => none

/-- The settings that the log of a session is asked to follow in the course of a history. -/
def History.asked (s : Session) : History → List Settings
  | [] => []
  | (stamp, t) :: history => (t.asked s).toList ++ asked (s.step stamp t).1 history

variable {s s' : Session} {asked : List Settings}

theorem LogsTo.past (hlogs : s.LogsTo s') (h : System.Past asked s.log) :
    System.Past asked s'.log := by
  obtain ⟨names, rfl⟩ := hlogs
  show System.Past asked { s.log with tree := names.foldl Tree.use s.log.tree }
  generalize s.log = log at h ⊢
  induction names generalizing log with
  | nil => exact h
  | cons n names ih => exact ih { log with tree := log.tree.use n } (h.use n)

theorem past_keptSettings (h : System.Past asked s.log) (stamp : List Char) :
    System.Past asked (s.keptSettings stamp).session.log := by
  obtain ⟨s', kept, loads, hlogs, heq⟩ := exists_logsTo_keptSettings s stamp
  rw [heq]
  exact hlogs.past h

theorem past_run (h : System.Past asked s.log) (stamp : List Char)
    (arguments : List Cli.Argument) (script : Network.Script) :
    System.Past (asked ++ s.offered.toOption.toList)
      (s.run stamp arguments script).session.log := by
  have hkept := past_keptSettings h stamp
  have hresult := (keptSettings_eq s stamp).1
  rw [run]
  dsimp only
  rw [← hresult]
  split
  · next e heq =>
      rw [heq]
      exact (List.append_nil asked).symm ▸ hkept
  · next settings heq =>
      have hconfigured := hkept.configure settings
      rw [heq]
      split
      · split <;> exact hconfigured
      · exact hconfigured
      · exact (logsTo_runRequest _ stamp _ _ script).past (hconfigured.bind _)

/-- **No step does anything else to the log**, and a step that configures it adds its settings. -/
theorem past_step (h : System.Past asked s.log) (stamp : List Char) (t : Step) :
    System.Past (asked ++ (t.asked s).toList) (s.step stamp t).1.log := by
  cases t with
  | configure given =>
      have hloaded := (logsTo_load s stamp given).past h
      have hresult : (s.load stamp given).result =
          (Settings.load given s.surroundings).result := rfl
      rw [Step.asked, Session.step, Session.configure]
      dsimp only
      rw [hresult]
      cases (Settings.load given s.surroundings).result with
      | error e => exact (List.append_nil asked).symm ▸ hloaded
      | ok settings => exact hloaded.configure settings
  | command arguments script => exact past_run h stamp arguments script
  | bind ms => exact (List.append_nil asked).symm ▸ h.bind ms
  | clear => exact (List.append_nil asked).symm ▸ h.clear
  | keptSettings =>
      have hserve : (s.serve stamp).1.log = (s.keptSettings stamp).session.log := by
        rw [serve]
        split <;> rfl
      show System.Past (asked ++ []) (s.serve stamp).1.log
      rw [hserve, List.append_nil]
      exact past_keptSettings h stamp
  | query host path script =>
      exact (List.append_nil asked).symm ▸ (logsTo_query s stamp host path script).past h
  | settings given => exact (List.append_nil asked).symm ▸ (logsTo_load s stamp given).past h
  | describe given => exact (List.append_nil asked).symm ▸ (logsTo_load s stamp given).past h
  | event call => exact (List.append_nil asked).symm ▸ (logsTo_event s stamp call).past h
  | record logger weight template arguments =>
      exact (List.append_nil asked).symm ▸
        (logsTo_record s stamp logger weight template arguments).past h
  | loggers names =>
      exact (List.append_nil asked).symm ▸ LogsTo.past (s := s) ⟨names, rfl⟩ h
  | _ => exact (List.append_nil asked).symm ▸ h

theorem past_after (h : System.Past asked s.log) (history : History) :
    System.Past (asked ++ history.asked s) (s.after history).log := by
  induction history generalizing s asked with
  | nil => exact (List.append_nil asked).symm ▸ h
  | cons t history ih =>
      rw [after_cons, History.asked, ← List.append_assoc]
      exact ih (past_step h t.1 t.2)

/-- **The log of a session has been asked what its history tells**, and has only been used, bound
and cleared besides. -/
theorem past_after_start (w : Surroundings) (history : History) :
    System.Past (history.asked (start w)) ((start w).after history).log :=
  past_after (s := start w) .initial history

/-- A log of a session follows the latest settings that it has been asked to follow. -/
theorem hasAsked_after_start (w : Surroundings) (history : History) :
    ((start w).after history).log.HasAsked (history.asked (start w)) :=
  (past_after_start w history).hasAsked

end Session
end RouteProbe
