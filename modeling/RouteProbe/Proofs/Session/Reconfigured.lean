import RouteProbe.Proofs.Log.Once
import RouteProbe.Proofs.Log.Spared
import RouteProbe.Proofs.Session.History

/-!
# Logging while the log is configured again and again

A session configures its log any number of times, each time with settings of its own, and uses
loggers in between.  `HasConfigured` is what lasts of this, whatever the order: the loggers beyond
all the noisy modules so far have nothing said about them, the root is as the latest settings ask,
and what is bound for all events can be written.  Each step preserves it (`HasConfigured.step`), and
so does every history (`HasConfigured.after`).

In such a session no event is lost and none is doubled: what a logger beyond the noisy modules is
given is written to standard error as one line if the latest settings take its level, and is not
written at all if they do not (`logged_once`).
-/

namespace RouteProbe
namespace Session

open Log

/-- A step configures the log or uses it, and binds nothing but texts for all events. -/
def Step.Logs : Step → Prop
  | .configure _ | .event _ | .record _ _ _ _ => True
  | .bind ms => ms.IsTextual
  | _ => False

/-- The settings that a step configures the log with. -/
def Step.configured (w : Surroundings) : Step → Option Settings
  | .configure given => (Settings.load given w).result.toOption
  | _ => none

/-- The settings that a history configures the log with, in turn. -/
def History.configured (w : Surroundings) (history : History) : List Settings :=
  history.filterMap fun t => t.2.configured w

/-- The noisy modules of some settings do not have a name of the root. -/
def LeavesRoot (settings : Settings) : Prop :=
  "" ∉ settings.noisyModules ∧ "root" ∉ settings.noisyModules

instance (settings : Settings) : Decidable (LeavesRoot settings) :=
  inferInstanceAs (Decidable (_ ∧ _))

/-- A session whose log has been used, and has been configured with some settings in turn. -/
structure HasConfigured (s : Session) (w : Surroundings) (asked : List Settings) : Prop where
  surroundings : s.surroundings = w
  context : s.log.context.IsTextual
  spares : s.log.tree.Spares (asked.flatMap noisyNames)
  latest : ∀ settings, asked.getLast? = some settings →
    s.log.routed = true ∧ s.log.tree.root = .ofSettings settings

variable {s s' : Session} {w : Surroundings} {asked : List Settings}

theorem hasConfigured_start (w : Surroundings) : (start w).HasConfigured w [] where
  surroundings := rfl
  context := Members.isTextual_nil
  spares := Tree.spares_initial
  latest _ h := by cases h

/-! ## Steps -/

/-- Using loggers changes nothing of it. -/
theorem HasConfigured.logsTo (h : s.HasConfigured w asked) (hlogs : s.LogsTo s') :
    s'.HasConfigured w asked where
  surroundings := hlogs.surroundings.trans h.surroundings
  context := hlogs.context ▸ h.context
  spares := hlogs.tree (P := (·.Spares _)) h.spares fun _ n ht => ht.use n
  latest settings hlast :=
    ⟨hlogs.routed.trans (h.latest settings hlast).1, hlogs.root.trans (h.latest settings hlast).2⟩

theorem HasConfigured.bind (h : s.HasConfigured w asked) {ms : Members} (hms : ms.IsTextual) :
    { s with log := s.log.bind ms }.HasConfigured w asked where
  surroundings := h.surroundings
  context := h.context.update hms
  spares := h.spares
  latest := h.latest

/-- Configuring the log adds the settings to those so far. -/
theorem HasConfigured.configure (h : s.HasConfigured w asked) {settings : Settings}
    (hleaves : LeavesRoot settings) :
    { s with log := s.log.configure settings }.HasConfigured w (asked ++ [settings]) where
  surroundings := h.surroundings
  context := h.context
  spares := h.spares.configure_asked settings
  latest settings' hlast := by
    rw [List.getLast?_concat] at hlast
    obtain rfl := Option.some.inj hlast
    refine ⟨rfl, (Tree.root_configure s.log.tree settings).trans ?_⟩
    exact if_neg (not_or.mpr hleaves)

/-- **Each step preserves it**, and a step that configures the log adds its settings. -/
theorem HasConfigured.step (h : s.HasConfigured w asked) (stamp : List Char) {t : Step}
    (ht : t.Logs) (hleaves : ∀ settings ∈ t.configured w, LeavesRoot settings) :
    (s.step stamp t).1.HasConfigured w (asked ++ (t.configured w).toList) := by
  cases t with
  | configure given =>
      have hloaded := h.logsTo (logsTo_load s stamp given)
      have hresult : (s.load stamp given).result = (Settings.load given w).result := by
        rw [← h.surroundings]
        rfl
      rw [Step.configured] at hleaves ⊢
      rw [Session.step, Session.configure]
      dsimp only
      rw [hresult]
      cases hload : (Settings.load given w).result with
      | error e => exact (List.append_nil asked).symm ▸ hloaded
      | ok settings =>
          rw [hload] at hleaves
          exact hloaded.configure (hleaves settings rfl)
  | event call => exact (List.append_nil asked).symm ▸ h.logsTo (logsTo_event s stamp call)
  | record logger weight template arguments =>
      exact (List.append_nil asked).symm ▸ h.logsTo (logsTo_record s stamp logger weight template
        arguments)
  | bind ms => exact (List.append_nil asked).symm ▸ h.bind ht
  | _ => exact ht.elim

/-- **Every history of such steps preserves it.** -/
theorem HasConfigured.after (h : s.HasConfigured w asked) {history : History}
    (hlogs : ∀ t ∈ history, t.2.Logs)
    (hleaves : ∀ settings ∈ history.configured w, LeavesRoot settings) :
    (s.after history).HasConfigured w (asked ++ history.configured w) := by
  induction history generalizing s asked with
  | nil => exact (List.append_nil asked).symm ▸ h
  | cons t history ih =>
      obtain ⟨hfirst, hrest⟩ := List.forall_mem_cons.mp hlogs
      have hsplit : History.configured w (t :: history) =
          (t.2.configured w).toList ++ History.configured w history := by
        rw [History.configured, List.filterMap_cons]
        cases t.2.configured w <;> rfl
      -- The settings of the first step join those so far, and the rest goes on from there.
      rw [hsplit] at hleaves ⊢
      rw [after_cons, ← List.append_assoc]
      refine ih (h.step t.1 hfirst fun settings hmem => ?_) hrest fun settings hmem => ?_
      · exact hleaves settings (List.mem_append_left _ (Option.mem_toList.mpr hmem))
      · exact hleaves settings (List.mem_append_right _ hmem)

/-! ## What is seen and written -/

/-- What there is to see of the root. -/
theorem loggerState_of_isRoot (t : Tree) {n : Name} (hn : n.isRoot = true) :
    loggerState t n =
      ⟨t.root.level, t.root.level, t.root.propagate, if t.root.handler.isSome then 1 else 0⟩ := by
  have hchain : t.chain n = [] := by rw [Tree.chain, if_pos hn]
  rw [loggerState, if_pos hn, Tree.effectiveLevel, hchain]
  rfl

theorem seen_of_isRoot (s : Session) (stamp : List Char) {n : Name} (hn : n.isRoot = true) :
    (s.step stamp (.loggers [n])).2 = .loggers [(n, loggerState s.log.tree n)] := by
  have huse : s.log.tree.use n = s.log.tree := by rw [Tree.use, hn, Bool.true_or, if_pos rfl]
  rw [step, seeLoggers, List.foldl_cons, List.foldl_nil, huse]
  rfl

/-- A logger beyond the noisy modules of all settings so far feeds the handler of the latest. -/
theorem HasConfigured.feeds (h : s.HasConfigured w asked) {settings : Settings}
    (hlatest : asked.getLast? = some settings) {n : Name}
    (hbeyond : ∀ settings ∈ asked, ¬ n.IsWithin (noisyNames settings)) :
    (s.log.tree.use n).Feeds n ⟨settings.logLevel, settings.environment⟩ :=
  have hroot : (s.log.tree.use n).root = .ofSettings settings :=
    (s.log.tree.root_use n).trans (h.latest settings hlatest).2
  (h.spares.use n).feeds_asked hroot hbeyond

/-- **No event is lost or doubled however often the log is configured.**  Take a history that
configures the log, uses it, and binds texts for all events, and where no noisy module has a name of
the root.  Once the log has been configured, the root has the one handler, and the level of the
latest settings.  What a logger is given that is beyond the noisy modules of all settings so far, an
event of any level or a record of any weight and with any message, is written to standard error as
the one line that the handler makes of it, with its text in it, if the level is that of the latest
settings at least; and nothing is written if not. -/
theorem logged_once (w : Surroundings) {history : History} (hlogs : ∀ t ∈ history, t.2.Logs)
    (hleaves : ∀ settings ∈ history.configured w, LeavesRoot settings) {settings : Settings}
    (hlatest : (history.configured w).getLast? = some settings) :
    let s := (start w).after history
    let handler : Handler := ⟨settings.logLevel, settings.environment⟩
    (∀ stamp n, Name.isRoot n = true →
      (s.step stamp (.loggers [n])).2 =
        .loggers [(n, ⟨settings.logLevel.weight, settings.logLevel.weight, true, 1⟩)]) ∧
      (∀ stamp (c : Call) level text, c.Says level text →
        (∀ settings ∈ history.configured w, ¬ c.logger.IsWithin (noisyNames settings)) →
        ∃ line,
          handler.render (completed ⟨s.log.context, System.shownName c.logger, level.name, stamp⟩
            ((c.bound.update c.members).put textKey (.text text))) = .ok line ∧
          textForm settings.environment text <:+: line ∧
          (s.step stamp (.event c)).2 = .logged (.ok ())
            (if settings.logLevel.weight ≤ level.weight then .errLine line else .none)) ∧
      ∀ stamp n weight (template : Value),
        (∀ settings ∈ history.configured w, ¬ n.IsWithin (noisyNames settings)) →
        ∃ line,
          handler.renderRecord ⟨s.log.context, System.shownName n, weightName weight, stamp⟩
            template.plainText = .ok line ∧
          textForm settings.environment (String.ofList template.plainText) <:+: line ∧
          (s.step stamp (.record n weight template [])).2 = .logged (.ok ())
            (if settings.logLevel.weight ≤ weight then .errLine line else .none) := by
  intro s handler
  have h : s.HasConfigured w (history.configured w) := (hasConfigured_start w).after hlogs hleaves
  obtain ⟨hrouted, hroot⟩ := h.latest settings hlatest
  refine ⟨fun stamp n hn => ?_, fun stamp c level text hc hbeyond => ?_,
    fun stamp n weight template hbeyond => ?_⟩
  · rw [seen_of_isRoot s stamp hn, loggerState_of_isRoot _ hn, hroot]
    rfl
  · obtain ⟨line, hrender, hinfix, hresult, hwritten⟩ :=
      System.event_of_says hrouted h.context stamp hc (h.feeds hlatest hbeyond)
    refine ⟨line, hrender, hinfix, ?_⟩
    show Answer.logged (s.log.event stamp c).result (s.log.event stamp c).written = _
    rw [hresult, hwritten]
  · obtain ⟨line, hrender, hinfix, hwritten⟩ :=
      System.record_of_feeds h.context stamp n weight template (h.feeds hlatest hbeyond)
    refine ⟨line, hrender, hinfix, ?_⟩
    show Answer.logged (.ok ()) (s.log.record stamp n weight template []).2 = _
    rw [hwritten]

/-- A history that configures the log twice, with a logger in between that comes under the second
settings' noisy module. -/
def louderHistory : History :=
  [([], .configure [("LOGGING_NOISY_MODULES", .list [.text "a"])]),
    ([], .bind [("job", .text "nightly")]),
    ([], .record "b.c".toList 5 (.text "early") []),
    ([], .configure [("LOG_LEVEL", .text "debug"), ("LOGGING_NOISY_MODULES", .list [.text "b"])])]

/-- A record that the first settings would not have taken is written under the second. -/
theorem logged_once_louder :
    ∃ line, textForm .development "7" <:+: line ∧
      (((start ⟨[], none⟩).after louderHistory).step [] (.record "bc".toList 15 (.int 7) [])).2 =
        .logged (.ok ()) (.errLine line) := by
  have hasked : louderHistory.configured ⟨[], none⟩ =
      [{ Settings.default with noisyModules := ["a"] },
        { Settings.default with logLevel := .debug, noisyModules := ["b"] }] := rfl
  have hbound : Members.IsTextual [("job", .text "nightly")] :=
    ⟨fun m hm => ⟨"nightly", by rw [List.mem_singleton.mp hm]⟩, by decide⟩
  have hlogs : ∀ t ∈ louderHistory, t.2.Logs := by
    simp [louderHistory, hbound, Step.Logs]
  have hlatest : (louderHistory.configured ⟨[], none⟩).getLast? =
      some { Settings.default with logLevel := .debug, noisyModules := ["b"] } := rfl
  obtain ⟨-, -, hrecord⟩ := logged_once ⟨[], none⟩ hlogs (by rw [hasked]; decide) hlatest
  rw [hasked] at hrecord
  obtain ⟨line, -, hinfix, hanswer⟩ := hrecord [] "bc".toList 15 (.int 7) (by decide)
  exact ⟨line, hinfix, hanswer⟩

end Session
end RouteProbe
