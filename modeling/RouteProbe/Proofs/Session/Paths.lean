import RouteProbe.Proofs.Session.Asked

/-!
# Two ways to a handler

A message gets to a handler in two ways.  As an event it is completed on the way from its logger,
and the handler only renders it; as a record it comes as it is, and the handler completes it before
it renders it.  In between, an event carries two names that are for the way alone, so what is bound
for all events under these names would make a difference.

Nothing else does: if none of the names that are kept for the way is bound, both ways come to the
same text, in either environment and for every level, message and logger beyond the noisy modules
(`written_alike`).
-/

namespace RouteProbe

open Log

namespace Log

variable {c : Circumstances} {ms : Members} {h : Handler} {s : System}

/-- The names that an event or a record has on its way alone. -/
def wayKeys : List String := originKey :: keptKeys

/-- A level is named by its weight. -/
theorem weightName_weight (level : Level) : weightName level.weight = level.name := by
  cases level <;> rfl

/-- **A handler renders a record as it renders the event with its message.** -/
theorem Handler.renderRecord_eq (h : Handler) (hcontext : ∀ k ∈ wayKeys, c.context.Lacks k)
    (text : String) :
    h.renderRecord c text.toList = h.render (completed c [(textKey, .text text)]) := by
  have hkept : ∀ k ∈ keptKeys, c.context.Lacks k := fun k hk =>
    hcontext k (List.mem_cons_of_mem _ hk)
  have hsent : (c.context.erase recordKey).erase originKey = c.context := by
    rw [(hkept recordKey List.mem_cons_self).erase_eq,
      (hcontext originKey List.mem_cons_self).erase_eq]
  rw [renderRecord, hsent, String.ofList_toList]
  rw [complete_of_lacks (fun k hk => lacks_message text hk) hkept]
  rfl

/-- What goes on a line of its own is not in a completed event if it is neither in the event nor
bound for all events. -/
theorem lacks_ownLine_completed (hms : ∀ k ∈ Console.ownLineKeys, ms.Lacks k)
    (hcontext : ∀ k ∈ Console.ownLineKeys, c.context.Lacks k) :
    ∀ k ∈ Console.ownLineKeys, (completed c ms).Lacks k := by
  have hsource : ∀ k ∈ Console.ownLineKeys, k ∉ sourceKeys := by decide
  have hfilled : ∀ k ∈ Console.ownLineKeys, ((filled c ms).erase "stack_info").Lacks k :=
    fun k hk => Members.Lacks.erase (forall_mem_filled (hms k hk) (hcontext k hk)
      (lacks_sourceMembers (hsource k hk))) _
  rw [completed_eq_filled, describeError_of_lacks (hfilled "exc_info" (by decide))]
  exact fun k hk => lacks_decodeBytes (hfilled k hk)

/-- A handler makes a line of an event with nothing that goes on a line of its own. -/
theorem Handler.exists_render_of_lacks (h : Handler)
    (hms : ∀ k ∈ Console.ownLineKeys, ms.Lacks k) : ∃ line, h.render ms = .ok line := by
  rw [render]
  cases h.environment with
  | ci => exact ⟨_, rfl⟩
  | development =>
      refine ⟨_, Console.render_of_lacks (fun k hk => ?_) _⟩
      exact ((hms k hk).erase recordKey).erase originKey

/-- A handler makes a line of a message if nothing is bound that goes on a line of its own. -/
theorem Handler.exists_render_message (h : Handler)
    (hcontext : ∀ k ∈ Console.ownLineKeys, c.context.Lacks k) (text : String) :
    ∃ line, h.render (completed c [(textKey, .text text)]) = .ok line := by
  have hmessage : ∀ k ∈ Console.ownLineKeys, Members.Lacks [(textKey, .text text)] k := by
    intro k hk m hm
    rw [List.mem_singleton.mp hm]
    rintro rfl
    exact absurd hk (by decide : textKey ∉ Console.ownLineKeys)
  exact h.exists_render_of_lacks (lacks_ownLine_completed hmessage hcontext)

/-- What a message comes to, as an event or as a record, on a logger that feeds a handler. -/
def messageWritten (h : Handler) (c : Circumstances) (weight : Int) (text : String) : Written :=
  if h.level.weight ≤ weight then .ofLine (h.render (completed c [(textKey, .text text)]))
  else .none

namespace System

/-- **A message is written as an event.** -/
theorem event_of_message (hrouted : s.routed = true) (hcontext : ∀ k ∈ wayKeys, s.context.Lacks k)
    (stamp : List Char) (n : Name) (level : Level) (text : String)
    (hfeeds : (s.tree.use n).Feeds n h) :
    (s.event stamp ⟨n, level.name, .text text, [], [], []⟩).result = .ok () ∧
      (s.event stamp ⟨n, level.name, .text text, [], [], []⟩).written =
        messageWritten h ⟨s.context, shownName n, level.name, stamp⟩ level.weight text := by
  have htells : Call.Tells ⟨n, level.name, .text text, [], [], []⟩ level text :=
    ⟨exists_method_of_level level, rfl, rfl, fun k _ => Members.lacks_nil k,
      fun k _ => Members.lacks_nil k⟩
  exact event_of_tells hrouted (fun k hk => hcontext k (List.mem_cons_of_mem _ hk)) stamp htells
    hfeeds

/-- **A message is written as a record.** -/
theorem record_of_message (hcontext : ∀ k ∈ wayKeys, s.context.Lacks k)
    (stamp : List Char) (n : Name) (level : Level) (text : String)
    (hfeeds : (s.tree.use n).Feeds n h) :
    (s.record stamp n level.weight (.text text) []).2 =
      messageWritten h ⟨s.context, shownName n, level.name, stamp⟩ level.weight text := by
  have hline := h.renderRecord_eq (c := ⟨s.context, shownName n, level.name, stamp⟩) hcontext text
  rw [record_of_no_arguments stamp n level.weight (.text text) hfeeds, weightName_weight]
  show (if _ then Written.ofLine (h.renderRecord _ text.toList) else _) = _
  rw [hline]
  rfl

end System
end Log

namespace Session

/-- **Both ways to a handler come to the same text.** -/
theorem written_alike (w : Surroundings) {history : History} {settings : Settings}
    (hlatest : (history.asked (start w)).getLast? = some settings) (hleaves : LeavesRoot settings)
    (hbound : ∀ k ∈ wayKeys, ((start w).after history).log.context.Lacks k) (stamp : List Char)
    {n : Name} (hbeyond : ∀ settings ∈ history.asked (start w), ¬ n.IsWithin (noisyNames settings))
    (level : Level) (text : String) :
    let s := (start w).after history
    ∃ written,
      (s.step stamp (.event ⟨n, level.name, .text text, [], [], []⟩)).2 =
          .logged (.ok ()) written ∧
        (s.step stamp (.record n level.weight (.text text) [])).2 = .logged (.ok ()) written ∧
        (level.weight < settings.logLevel.weight → written = .none) ∧
        (settings.logLevel.weight ≤ level.weight →
          (∀ k ∈ Console.ownLineKeys, s.log.context.Lacks k) → ∃ line, written = .errLine line) := by
  intro s
  have h : s.log.HasAsked (history.asked (start w)) := hasAsked_after_start w history
  have hrouted := (h.latest settings hlatest).routed
  have hfeeds := h.feeds hlatest hleaves hbeyond
  obtain ⟨hresult, hevent⟩ := System.event_of_message hrouted hbound stamp n level text hfeeds
  refine ⟨messageWritten ⟨settings.logLevel, settings.environment⟩
    ⟨s.log.context, System.shownName n, level.name, stamp⟩ level.weight text,
    ?_, ?_, fun hlow => ?_, fun htaken hown => ?_⟩
  · show Answer.logged (s.log.event stamp _).result (s.log.event stamp _).written = _
    rw [hresult, hevent]
  · show Answer.logged (.ok ()) (s.log.record stamp n level.weight (.text text) []).2 = _
    rw [System.record_of_message hbound stamp n level text hfeeds]
  · exact if_neg (Int.not_le.mpr hlow)
  · obtain ⟨line, hrender⟩ :=
      Handler.exists_render_message ⟨settings.logLevel, settings.environment⟩
        (c := ⟨s.log.context, System.shownName n, level.name, stamp⟩) hown text
    refine ⟨line, (if_pos htaken).trans ?_⟩
    rw [hrender]
    rfl

/-- A history that asks for the log of a pipeline, binds two names and uses a logger. -/
def pipelineHistory : History :=
  [([], .configure [("ENVIRONMENT", .text "ci")]), ([], .bind [("job", .int 7), ("a b", .flag true)]),
    ([], .record "app.worker".toList 20 (.text "early") [])]

/-- A message with a percent sign, a line feed and a sharp s is written alike after this history. -/
theorem written_alike_pipeline :
    let s := (start ⟨[], none⟩).after pipelineHistory
    ∃ line,
      (s.step [] (.event ⟨"app.worker".toList, "warning", .text "a%b\n\u00df", [], [], []⟩)).2 =
          .logged (.ok ()) (.errLine line) ∧
        (s.step [] (.record "app.worker".toList 30 (.text "a%b\n\u00df") [])).2 =
          .logged (.ok ()) (.errLine line) := by
  have hlatest : (pipelineHistory.asked (start ⟨[], none⟩)).getLast? =
      some { Settings.default with environment := .ci } := rfl
  obtain ⟨written, hevent, hrecord, -, hline⟩ := written_alike ⟨[], none⟩ hlatest
    ⟨by decide, by decide⟩ (by decide) [] (n := "app.worker".toList) (by decide) .warning
    "a%b\n\u00df"
  obtain ⟨line, rfl⟩ := hline (by decide) (by decide)
  exact ⟨line, hevent, hrecord⟩

end Session
end RouteProbe
