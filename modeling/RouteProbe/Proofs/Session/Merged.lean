import RouteProbe.Proofs.Log.Merged
import RouteProbe.Proofs.Session.Asked

/-!
# Lines on a terminal hang on merged events only

In a session whose log is for a terminal, what is written of an event is told by its merged members:
two calls come to the same text, in one session or in two, if the members that came with them, that
were bound to their logger and that are bound for all events are together the same (`merged_line`).
It matters neither in which order they come nor from which of these places.  What is written then is
one line, unless a text that is shown as it is has a line end.
-/

namespace RouteProbe
namespace Session

open Log Text

/-- After a history the log is for a terminal, and takes the events of a logger from a level on. -/
structure OnTerminal (w : Surroundings) (history : History) (settings : Settings) (logger : Name)
    (level : Level) : Prop where
  latest : (history.asked (start w)).getLast? = some settings
  leaves : LeavesRoot settings
  development : settings.environment = .development
  beyond : ∀ settings ∈ history.asked (start w), ¬ logger.IsWithin (noisyNames settings)
  taken : settings.logLevel.weight ≤ level.weight

variable {w w' : Surroundings} {history history' : History} {settings settings' : Settings}

/-- What is written of a merged event on a terminal is the line of its completed members. -/
theorem OnTerminal.answer {call : Call} {m : Method}
    (h : OnTerminal w history settings call.logger m.level)
    (hcall : call.Merges m ((start w).after history).log.context) (stamp : List Char) :
    (((start w).after history).step stamp (.event call)).2 = .logged (.ok ())
      (.ofLine (Handler.render ⟨settings.logLevel, .development⟩
        (completed ⟨((start w).after history).log.context, System.shownName call.logger,
          m.level.name, stamp⟩ (call.event m call.text)))) := by
  have hasked := hasAsked_after_start w history
  have hfeeds := hasked.feeds h.latest h.leaves h.beyond
  rw [h.development] at hfeeds
  obtain ⟨hresult, hwritten⟩ := System.event_of_merges (hasked.latest settings h.latest).routed
    hcall stamp hfeeds h.taken
  show Answer.logged (((start w).after history).log.event stamp call).result
    (((start w).after history).log.event stamp call).written = _
  rw [hresult, hwritten]

/-- **What is written on a terminal hangs on the merged event only.**  Take two calls of the same
logger, method and text, without positional arguments, each in a session whose log is for a terminal
and takes the call.  If the members that came with the one, that were bound to its logger and that
are bound for all events are together those of the other, each name coming from one place only and
none being held, then both calls succeed and the same is written.  This is one line and its end, if
the text of the event, the name of its logger and all names have no line end, whatever the values
are. -/
theorem merged_line {call call' : Call} {m : Method}
    (hterminal : OnTerminal w history settings call.logger m.level)
    (hterminal' : OnTerminal w' history' settings' call'.logger m.level)
    (hcall : call.Merges m ((start w).after history).log.context)
    (hlogger : call'.logger = call.logger) (hmethod : call'.method = call.method)
    (htext : call'.text = call.text) (harguments : call'.arguments = [])
    (hperm : (call.sources ((start w).after history).log.context).Perm
      (call'.sources ((start w').after history').log.context)) (stamp : List Char) :
    ∃ written,
      (((start w).after history).step stamp (.event call)).2 = .logged (.ok ()) written ∧
      (((start w').after history').step stamp (.event call')).2 = .logged (.ok ()) written ∧
      ((∀ k ∈ unshownKeys, (call.sources ((start w).after history).log.context).Lacks k) →
        (∀ x ∈ call.sources ((start w).after history).log.context, IsOneLine x.1.toList) →
        IsOneLine (shownText call.text) → IsOneLine (System.shownName call.logger) →
        IsOneLine stamp → ∃ line, written = .errLine line ∧ IsOneLine line) := by
  have hcall' := hcall.of_perm hmethod harguments hperm
  refine ⟨_, hterminal.answer hcall stamp, ?_, fun hlacks hnames hline hloggerLine hstamp => ?_⟩
  · rw [hterminal'.answer hcall' stamp, hlogger, htext]
    have hsame := Handler.render_eq_of_perm (h := ⟨settings.logLevel, .development⟩) rfl hcall
      hcall' hperm call.text (System.shownName call.logger) m.level.name stamp
    rw [hsame]
    rfl
  · have hlevel : IsOneLine m.level.name.toList := by cases m.level <;> decide
    obtain ⟨line, hrender, honeLine⟩ :=
      Handler.exists_oneLine (h := ⟨settings.logLevel, .development⟩) rfl hcall hlacks hnames hline
        hloggerLine hlevel hstamp
    rw [hrender]
    exact ⟨line, rfl, honeLine⟩

/-- Members with values of several kinds, some of them with line ends. -/
def variedMembers : Members :=
  [("body", .bytes [104, 10, 255]), ("tries", .list [.int 3, .text "a\nb"]),
    ("cause", .error .value "no\nanswer"), ("host", .null)]

/-- A call that comes with two of the members, and one that was bound to its logger. -/
def gatheredCall : Call :=
  ⟨"probe.query".toList, "warning", .text "asked", [], variedMembers.take 2,
    (variedMembers.drop 2).take 1⟩

/-- A call that comes with none of them, and one that was bound to its logger. -/
def movedCall : Call :=
  ⟨"probe.query".toList, "warning", .text "asked", [], [], variedMembers.reverse.take 1⟩

/-- A history in which the last of the members is bound for all events. -/
def gatheredHistory : History := [([], .configure []), ([], .bind (variedMembers.drop 3))]

/-- A history in which all but the last are bound for all events, before the log is configured. -/
def movedHistory : History := [([], .bind (variedMembers.reverse.drop 1)), ([], .configure [])]

/-- After each of the histories its call comes to the same line. -/
theorem merged_line_moved :
    ∃ line, (((start ⟨[], none⟩).after gatheredHistory).step [] (.event gatheredCall)).2 =
        .logged (.ok ()) (.errLine line) ∧
      (((start ⟨[], none⟩).after movedHistory).step [] (.event movedCall)).2 =
        .logged (.ok ()) (.errLine line) ∧ IsOneLine line := by
  have hterminal : OnTerminal ⟨[], none⟩ gatheredHistory Settings.default gatheredCall.logger
      Level.warning := ⟨rfl, ⟨by decide, by decide⟩, rfl, by decide, by decide⟩
  have hterminal' : OnTerminal ⟨[], none⟩ movedHistory Settings.default movedCall.logger
      Level.warning := ⟨rfl, ⟨by decide, by decide⟩, rfl, by decide, by decide⟩
  have hsources : gatheredCall.sources
      ((start ⟨[], none⟩).after gatheredHistory).log.context = variedMembers := rfl
  have hsources' : movedCall.sources
      ((start ⟨[], none⟩).after movedHistory).log.context = variedMembers.reverse := rfl
  have hperm : (gatheredCall.sources ((start ⟨[], none⟩).after gatheredHistory).log.context).Perm
      (movedCall.sources ((start ⟨[], none⟩).after movedHistory).log.context) := by
    rw [hsources, hsources']
    exact (List.reverse_perm _).symm
  have hlacks : ∀ k ∈ heldKeys ++ unshownKeys, variedMembers.Lacks k := by decide
  have hmerges : gatheredCall.Merges ⟨.warning, "warning", false⟩
      ((start ⟨[], none⟩).after gatheredHistory).log.context :=
    ⟨rfl, rfl, by rw [hsources]; decide,
      fun k hk => hsources ▸ hlacks k (List.mem_append_left _ hk)⟩
  have hlogger : movedCall.logger = gatheredCall.logger := rfl
  obtain ⟨written, hgathered, hmoved, honeLine⟩ :=
    merged_line hterminal hterminal' hmerges hlogger rfl rfl rfl hperm []
  obtain ⟨line, rfl, hline⟩ := honeLine
    (fun k hk => hsources ▸ hlacks k (List.mem_append_right _ hk))
    (by rw [hsources]; decide) (by decide) (by decide) isOneLine_nil
  exact ⟨line, hgathered, hmoved, hline⟩

end Session
end RouteProbe
