import RouteProbe.Proofs.Log.Once
import RouteProbe.Proofs.Session.Asked

/-!
# Read off a line

A log for programs writes an event as one line of JSON, and nothing of the event is lost in it.
What was told is read off the line again: its text as it was, and under each name the value that
came with the event, or else the one that was bound to the logger, or else the one that is bound for
all events; beside it stand the logger, the level and the time, and no other name (`read_event`).

This goes for values that JSON has a form for, however deep, under names that completion does not
claim (`Log.claimedKeys`).  Such values are not touched on the way: there are no bytes to read as
text and no error to describe, so completion only puts in what it has to add (`completed_put`).
-/

namespace RouteProbe

open Log Text

/-- The names that completion claims for itself, and those that are reserved. -/
def Log.claimedKeys : List String :=
  reservedKeys ++ originKey :: sourceKeys ++ ["stack_info", "exc_info"]

namespace Members

/-- Values that JSON has a form for, under names that are not claimed. -/
structure IsClear (ms : Members) : Prop where
  lacks : ∀ k ∈ Log.claimedKeys, ms.Lacks k
  values : ∀ m ∈ ms, Json.IsJson m.2

variable {ms more : Members}

theorem IsClear.update (h : ms.IsClear) (hmore : more.IsClear) : (ms.update more).IsClear where
  lacks k hk := (h.lacks k hk).update (hmore.lacks k hk)
  values := forall_mem_update h.values hmore.values

theorem IsClear.lacks_reserved (h : ms.IsClear) : ∀ k ∈ Log.reservedKeys, ms.Lacks k :=
  fun k hk => h.lacks k (List.mem_append_left _ (List.mem_append_left _ hk))

theorem IsClear.lacks_kept (h : ms.IsClear) : ∀ k ∈ Log.keptKeys, ms.Lacks k :=
  fun k hk => h.lacks_reserved k (List.mem_append_right _ hk)

end Members

namespace Log

variable {c : Circumstances} {ms : Members} {h : Handler} {s : System} {stamp : List Char}

/-- Of the names that are claimed, a filled event has that of its text and those that say where, how
and when it was said. -/
theorem lacks_filled (hms : ms.IsClear) (hcontext : c.context.IsClear) (text : String) {k : String}
    (hk : k ∈ claimedKeys) (hne : textKey ≠ k) (hsource : k ∉ sourceKeys) :
    (filled c (ms.put textKey (.text text))).Lacks k :=
  forall_mem_filled ((hms.lacks k hk).put hne _) (hcontext.lacks k hk) (lacks_sourceMembers hsource)

theorem isJson_filled (hms : ms.IsClear) (hcontext : c.context.IsClear) (text : String) :
    ∀ m ∈ filled c (ms.put textKey (.text text)), Json.IsJson m.2 :=
  forall_mem_filled (Members.forall_mem_put hms.values (.text text)) hcontext.values
    fun m hm => (isFlat_sourceMembers m hm).isJson

/-- **Completion only puts in what it has to add.** -/
theorem completed_put (hms : ms.IsClear) (hcontext : c.context.IsClear) (text : String) :
    completed c (ms.put textKey (.text text)) = filled c (ms.put textKey (.text text)) := by
  have hstack := lacks_filled hms hcontext text (k := "stack_info") (by decide) (by decide)
    (by decide)
  have herror := lacks_filled hms hcontext text (k := "exc_info") (by decide) (by decide)
    (by decide)
  rw [completed_eq_filled, hstack.erase_eq, describeError_of_lacks herror,
    decodeBytes_of_isJson (isJson_filled hms hcontext text)]

/-- A handler for programs writes all members of a completed event. -/
theorem Handler.render_completed (hci : h.environment = .ci) (hms : ms.IsClear)
    (hcontext : c.context.IsClear) (text : String) :
    h.render (completed c (ms.put textKey (.text text))) =
      .ok (Json.write (.object (filled c (ms.put textKey (.text text))))) := by
  have hrecord := lacks_filled hms hcontext text (k := recordKey) (by decide) (by decide)
    (by decide)
  have horigin := lacks_filled hms hcontext text (k := originKey) (by decide) (by decide)
    (by decide)
  rw [completed_put hms hcontext, render, hci, hrecord.erase_eq, horigin.erase_eq]

/-- What a line says beside the members of an event: its text, and where, how and when it was
said. -/
def lineMembers (logger : Name) (level : Level) (stamp : List Char) (text : String) : Members :=
  [(textKey, .text text), ("logger", .text (String.ofList (System.shownName logger))),
    ("level", .text level.name), ("timestamp", .text (String.ofList stamp))]

/-- **The values of a filled event**: those of the line, those that came with the event, those that
were bound to its logger, and those that are bound for all events. -/
theorem get?_filled_put {context members : Members} (hcontext : (context.map (·.1)).Nodup)
    (hmembers : (members.map (·.1)).Nodup) (bound : Members) (logger : Name) (level : Level)
    (stamp : List Char) (text : String) (k : String) :
    (filled ⟨context, System.shownName logger, level.name, stamp⟩
        ((bound.update members).put textKey (.text text))).get? k =
      ((lineMembers logger level stamp text).get? k).or
        ((members.get? k).or ((bound.get? k).or (context.get? k))) := by
  have hline : lineMembers logger level stamp text = (textKey, .text text) ::
      sourceMembers ⟨context, System.shownName logger, level.name, stamp⟩ := rfl
  rw [get?_filled hcontext, Members.get?_put, Members.get?_update _ hmembers, hline,
    Members.get?_cons]
  by_cases hk : textKey = k
  · have hnone := (lacks_sourceMembers
      (c := ⟨context, System.shownName logger, level.name, stamp⟩) (k := k)
      (hk ▸ by decide)).get?_eq_none
    rw [if_pos hk, if_pos hk, hnone, Option.none_or, Option.some_or, Option.some_or]
  · rw [if_neg hk, if_neg hk, Option.or_assoc]

/-- An event of a level that tells a text, without arguments, and whose members are clear, as are
those that were bound to the logger; the names of each differ. -/
structure Call.IsClear (c : Call) (level : Level) (text : String) : Prop where
  method : ∃ m, Method.ofName? c.method = some m ∧ m.level = level ∧ m.withError = false
  text : c.text = .text text
  arguments : c.arguments = []
  members : c.members.IsClear
  memberNames : (c.members.map (·.1)).Nodup
  bound : c.bound.IsClear
  boundNames : (c.bound.map (·.1)).Nodup

theorem Call.IsClear.tells {c : Call} {level : Level} {text : String} (hc : c.IsClear level text) :
    c.Tells level text where
  method := hc.method
  text := hc.text
  arguments := hc.arguments
  members := hc.members.lacks_reserved
  bound := hc.bound.lacks_reserved

end Log

namespace Session

/-- **What an event tells is read off its line.** -/
theorem read_event (w : Surroundings) {history : History} {settings : Settings}
    (hlatest : (history.asked (start w)).getLast? = some settings) (hleaves : LeavesRoot settings)
    (hci : settings.environment = .ci)
    (hcontext : ((start w).after history).log.context.IsClear) (stamp : List Char) {c : Call}
    (hbeyond : ∀ settings ∈ history.asked (start w), ¬ c.logger.IsWithin (noisyNames settings))
    {level : Level} {text : String} (hc : c.IsClear level text)
    (htaken : settings.logLevel.weight ≤ level.weight) :
    let s := (start w).after history
    ∃ (line : List Char) (ms : Members),
      (s.step stamp (.event c)).2 = .logged (.ok ()) (.errLine line) ∧
        IsPrinted line ∧ Json.read line = some (.object ms) ∧ (ms.map (·.1)).Nodup ∧
        ∀ k, ms.get? k = ((lineMembers c.logger level stamp text).get? k).or
          ((c.members.get? k).or ((c.bound.get? k).or (s.log.context.get? k))) := by
  intro s
  have hasked : s.log.HasAsked (history.asked (start w)) := hasAsked_after_start w history
  have hclear := hc.bound.update hc.members
  obtain ⟨hresult, hwritten⟩ := System.event_of_tells (hasked.latest settings hlatest).routed
    hcontext.lacks_kept stamp hc.tells (hasked.feeds hlatest hleaves hbeyond)
  rw [if_pos htaken, Handler.render_completed hci hclear hcontext] at hwritten
  let ms := filled ⟨s.log.context, System.shownName c.logger, level.name, stamp⟩
    ((c.bound.update c.members).put textKey (.text text))
  have hnames : (ms.map (·.1)).Nodup := Members.nodup_update (Members.nodup_complete
    (Members.nodup_put (Members.nodup_update hc.boundNames c.members) textKey (.text text)) _) _
  have hjson : Json.IsJson (.object ms) := .object ms hnames (isJson_filled hclear hcontext text)
  refine ⟨Json.write (.object ms), ms, ?_, Json.isPrinted_write hjson, Json.read_write hjson,
    hnames, get?_filled_put hasked.names hc.memberNames c.bound c.logger level stamp text⟩
  show Answer.logged (s.log.event stamp c).result (s.log.event stamp c).written = _
  rw [hresult, hwritten]
  rfl

/-- A history that binds two values for all events in a log for programs. -/
def boundHistory : History :=
  [([], .configure [("ENVIRONMENT", .text "ci")]),
    ([], .bind [("job", .int 7), ("share", .real (.finite false (2 ^ 52) (-53)))])]

/-- A call with a list in an object, and one name that is bound for all events as well. -/
def boundCall : Call :=
  ⟨"app.worker".toList, "warn", .text "50%\n\u00df", [],
    [("job", .text "retry"), ("parts", .object [("", .list [.flag true, .null])])],
    [("user", .text "\x7b%s\x7d"), ("parts", .null)]⟩

theorem isClear_boundCall : boundCall.IsClear .warning "50%\n\u00df" where
  method := ⟨_, rfl, rfl, rfl⟩
  text := rfl
  arguments := rfl
  members := by
    refine ⟨by decide, List.forall_mem_cons.mpr ⟨.text _, List.forall_mem_singleton.mpr ?_⟩⟩
    refine .object _ (by decide) (List.forall_mem_singleton.mpr (.list _ ?_))
    exact List.forall_mem_cons.mpr ⟨.flag true, List.forall_mem_singleton.mpr .null⟩
  memberNames := by decide
  bound := ⟨by decide,
    List.forall_mem_cons.mpr ⟨.text _, List.forall_mem_singleton.mpr .null⟩⟩
  boundNames := by decide

/-- All that this call tells is read off its line. -/
theorem read_event_boundCall :
    ∃ (line : List Char) (ms : Members),
      (((start ⟨[], none⟩).after boundHistory).step [] (.event boundCall)).2 =
          .logged (.ok ()) (.errLine line) ∧
        Json.read line = some (.object ms) ∧
        ms.get? "event" = some (.text "50%\n\u00df") ∧
        ms.get? "job" = some (.text "retry") ∧
        ms.get? "share" = some (.real (.finite false (2 ^ 52) (-53))) ∧
        ms.get? "job id" = none := by
  have hlatest : (boundHistory.asked (start ⟨[], none⟩)).getLast? =
      some { Settings.default with environment := .ci } := rfl
  have hcontext : ((start ⟨[], none⟩).after boundHistory).log.context.IsClear := by
    refine ⟨by decide, ?_⟩
    show ∀ m ∈ [("job", Value.int 7), ("share", .real (.finite false (2 ^ 52) (-53)))],
      Json.IsJson m.2
    exact List.forall_mem_cons.mpr ⟨.int 7 (by decide),
      List.forall_mem_singleton.mpr
        (.real _ _ _ ⟨by decide, by decide, by decide, .inl (by decide)⟩)⟩
  obtain ⟨line, ms, hline, -, hread, -, hvalues⟩ := read_event ⟨[], none⟩ hlatest
    ⟨by decide, by decide⟩ rfl hcontext [] (by decide) isClear_boundCall (by decide)
  exact ⟨line, ms, hline, hread, hvalues "event", hvalues "job", hvalues "share",
    hvalues "job id"⟩

end Session
end RouteProbe
