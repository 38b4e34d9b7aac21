import RouteProbe.Log.System
import RouteProbe.Proofs.Log.Members
import RouteProbe.Proofs.Result

/-!
# A log that has been configured

Events go through the tree once the log has been configured.  Nothing is written to standard
output from then on (`System.out_event`), and records of other programs never write there
(`System.out_record`).

An event whose members have none of the names that are kept for the way to a handler, in a log
whose bound values have none of them either, can always be completed (`complete_of_lacks`), so
logging it succeeds (`System.event_of_isPlain`).  The log stays as it was in this respect, and
so does each that comes of it (`System.IsReady.event`, `System.IsReady.record`).
-/

namespace RouteProbe
namespace Log

/-! ## Standard output -/

theorem out_ofLine (line : Except EventError (List Char)) : (Written.ofLine line).out = [] := by
  cases line <;> rfl

theorem Tree.Outlet.out_writeEvent (o : Tree.Outlet) (weight : Int) (ms : Members) :
    (o.writeEvent weight ms).out = [] := by
  unfold Tree.Outlet.writeEvent
  split
  · rfl
  · cases o with
    | handler h => exact out_ofLine _
    | plain => rfl

theorem Tree.Outlet.out_writeRecord (o : Tree.Outlet) (c : Circumstances) (weight : Int)
    (text : Except EventError (List Char)) : (o.writeRecord c weight text).out = [] := by
  unfold Tree.Outlet.writeRecord
  split
  · rfl
  · exact out_ofLine _

namespace System

variable {s : System}

/-- Records write nothing to standard output. -/
theorem out_record (s : System) (stamp : List Char) (n : Name) (weight : Int) (template : Value)
    (arguments : List Value) : (s.record stamp n weight template arguments).2.out = [] := by
  rw [record]
  split
  · exact Tree.Outlet.out_writeRecord _ _ _ _
  · rfl

theorem out_route {stamp : List Char} {n : Name} {level : Level} {ordered : List Value}
    {ms : Members} {w : Written} (h : s.route stamp n level ordered ms = .ok w) : w.out = [] := by
  rw [route] at h
  split at h
  · dsimp only at h
    cases hcomplete : complete ⟨s.context, shownName n, level.name, stamp⟩ ordered ms with
    | error e => rw [hcomplete] at h; cases h
    | ok ms' =>
        rw [hcomplete] at h
        cases h
        exact Tree.Outlet.out_writeEvent _ _ _
  · cases h
    rfl

theorem out_done {s : System} {result : Except CallError Written}
    (h : ∀ w, result = .ok w → w.out = []) : (s.done result).written.out = [] := by
  cases result with
  | error e => rfl
  | ok w => exact h w rfl

/-- **Once the log has been configured, events write nothing to standard output.** -/
theorem out_event (h : s.routed = true) (stamp : List Char) (c : Call) :
    (s.event stamp c).written.out = [] := by
  rw [event]
  split
  · rfl
  · rw [if_pos h]
    refine out_done fun w hw => ?_
    obtain ⟨⟨m, ms⟩, -, hroute⟩ := bind_eq_ok_iff.mp hw
    exact out_route (mapError_eq_ok_iff.mp hroute)

end System

/-! ## Events that can be completed -/

/-- The names of members that are kept for the way to a handler. -/
def keptKeys : List String := [recordKey, positionalKey]

/-- The text of an event is not under a name that is kept. -/
theorem textKey_ne {k : String} (hk : k ∈ keptKeys) : textKey ≠ k := by
  rintro rfl
  exact absurd hk (by decide)

/-- An event without a record is named after its logger. -/
theorem nameLogger_of_lacks {ms : Members} (h : ms.Lacks recordKey) (logger : Name) :
    nameLogger ms logger = .ok (ms.put "logger" (.text (String.ofList logger))) := by
  rw [nameLogger, h.get?_eq_none]

/-- An event without arguments keeps its text. -/
theorem fillInPositional_of_lacks {ms : Members} (h : ms.Lacks positionalKey) :
    fillInPositional ms [] = .ok ms := by
  simp only [fillInPositional, h.get?_eq_none]

/-- What an event without arguments is completed to. -/
def completed (c : Circumstances) (ms : Members) : Members :=
  let named := (ms.complete c.context.sorted).put "logger" (.text (String.ofList c.logger))
  let timed := (named.put "level" (.text c.level)).put "timestamp" (.text (String.ofList c.stamp))
  decodeBytes (describeError (timed.erase "stack_info"))

/-- **An event without the names that are kept can be completed.** -/
theorem complete_of_lacks {c : Circumstances} {ms : Members}
    (hms : ∀ k ∈ keptKeys, ms.Lacks k) (hcontext : ∀ k ∈ keptKeys, c.context.Lacks k) :
    complete c [] ms = .ok (completed c ms) := by
  have hall (k : String) (hk : k ∈ keptKeys) : (ms.complete c.context.sorted).Lacks k :=
    (hms k hk).complete (hcontext k hk).sorted
  have hnamed := nameLogger_of_lacks (hall recordKey List.mem_cons_self) c.logger
  have hpositional : (((ms.complete c.context.sorted).put "logger"
      (.text (String.ofList c.logger))).put "level" (.text c.level)).Lacks positionalKey :=
    ((hall positionalKey (List.mem_cons_of_mem _ List.mem_cons_self)).put (by decide) _).put
      (by decide) _
  exact bind_eq_ok_iff.mpr ⟨_, hnamed,
    bind_eq_ok_iff.mpr ⟨_, fillInPositional_of_lacks hpositional, rfl⟩⟩

/-! ## Events that can be logged -/

/-- The names that the members of an event must not have: those of the arguments of the
functions that it goes through, and those that are kept for the way to a handler. -/
def reservedKeys : List String := ["event", "self", "method_name"] ++ keptKeys

/-- An event of a known level, with a text, without arguments and bound members, and with no
name that is reserved. -/
structure Call.IsPlain (c : Call) : Prop where
  method : ∃ m, Method.ofName? c.method = some m ∧ m.withError = false
  text : ∃ t, c.text = .text t
  arguments : c.arguments = []
  bound : c.bound = []
  lacks : ∀ k ∈ reservedKeys, c.members.Lacks k

/-- The way to log that has the name of a level; no error at hand goes with the event. -/
theorem exists_method_of_level (level : Level) :
    ∃ m, Method.ofName? level.name = some m ∧ m.level = level ∧ m.withError = false := by
  cases level <;> exact ⟨_, rfl, rfl, rfl⟩

theorem checkNames_of_lacks {function : String} {arguments : List String} {ms : Members}
    (h : ∀ k ∈ arguments, ms.Lacks k) : checkNames function arguments ms = .ok () := by
  have hnone : ms.find? (fun m => arguments.contains m.1) = none := by
    rw [List.find?_eq_none]
    intro m hm hk
    rw [List.contains_iff_mem] at hk
    exact h m.1 hk m hm rfl
  rw [checkNames, hnone]

/-- The event of a call that has a known method, and none of whose members has the name of an
argument. -/
theorem Call.routedEvent_of_lacks {c : Call} {m : Method} (hm : Method.ofName? c.method = some m)
    (h : ∀ k ∈ reservedKeys, c.members.Lacks k) :
    c.routedEvent = .ok (m, c.event m c.text) := by
  have hfirst : ∀ k ∈ ["event", "self"], c.members.Lacks k := fun k hk =>
    h k (List.mem_append_left _ (List.mem_append_left ["method_name"] hk))
  have hsecond : ∀ k ∈ ["method_name"], c.members.Lacks k := fun k hk =>
    h k (List.mem_append_left _ (List.mem_append_right ["event", "self"] hk))
  rw [Call.routedEvent, hm]
  simp only [checkNames_of_lacks hfirst, checkNames_of_lacks hsecond]
  rfl

/-- The members of an event with a text, unless an error at hand goes with it. -/
theorem Call.event_of_text {c : Call} {m : Method} (herror : m.withError = false) (text : String) :
    c.event m (.text text) = (c.bound.update c.members).put textKey (.text text) := by
  simp only [Call.event, herror, Bool.false_and, Bool.false_eq_true, if_false]

/-- The members of a plain event, with its text among them. -/
theorem Call.IsPlain.routedEvent {c : Call} (h : c.IsPlain) :
    ∃ m ms, c.routedEvent = .ok (m, ms) ∧ ∀ k ∈ keptKeys, ms.Lacks k := by
  obtain ⟨m, hm, herror⟩ := h.method
  obtain ⟨t, ht⟩ := h.text
  refine ⟨m, c.event m c.text, routedEvent_of_lacks hm h.lacks, fun k hk => ?_⟩
  have hmembers : c.members.Lacks k := h.lacks k (List.mem_append_right _ hk)
  rw [ht, event_of_text herror, h.bound]
  exact (Members.Lacks.update (Members.lacks_nil k) hmembers).put (textKey_ne hk) _

namespace System

/-- The log has been configured, and the values bound for all events have none of the names
that are kept for the way to a handler. -/
structure IsReady (s : System) : Prop where
  routed : s.routed = true
  lacks : ∀ k ∈ keptKeys, s.context.Lacks k

variable {s : System}

/-- An event that can be completed goes to the outlet of its logger if that takes the level. -/
theorem route_of_complete {stamp : List Char} {n : Name} {level : Level} {ms done : Members}
    (h : complete ⟨s.context, shownName n, level.name, stamp⟩ [] ms = .ok done) :
    s.route stamp n level [] ms = .ok
      (if s.tree.isEnabled n level.weight then (s.tree.outlet n).writeEvent level.weight done
        else .none) := by
  unfold route
  split
  · simp only [h]
    rfl
  · rfl

theorem system_done (s : System) (result : Except CallError Written) :
    (s.done result).system = s := by
  cases result <;> rfl

/-- Logging an event may add a logger to the tree, and changes nothing else. -/
theorem system_event (s : System) (stamp : List Char) (c : Call) :
    (s.event stamp c).system.routed = s.routed ∧
      (s.event stamp c).system.context = s.context := by
  rw [event]
  split
  · exact ⟨rfl, rfl⟩
  · split
    · rw [system_done]
      exact ⟨rfl, rfl⟩
    · rw [system_done]
      exact ⟨rfl, rfl⟩

/-- A log stays ready when an event is logged. -/
theorem IsReady.event (hs : s.IsReady) (stamp : List Char) (c : Call) :
    (s.event stamp c).system.IsReady := by
  obtain ⟨hrouted, hcontext⟩ := s.system_event stamp c
  exact ⟨hrouted.trans hs.routed, by rw [hcontext]; exact hs.lacks⟩

theorem IsReady.use (hs : s.IsReady) (n : Name) : { s with tree := s.tree.use n }.IsReady :=
  ⟨hs.routed, hs.lacks⟩

/-- A log stays ready when a record is logged. -/
theorem IsReady.record (hs : s.IsReady) (stamp : List Char) (n : Name) (weight : Int)
    (template : Value) (arguments : List Value) :
    (s.record stamp n weight template arguments).1.IsReady := by
  rw [System.record]
  split
  · exact hs.use n
  · exact hs.use n

/-- What comes of an event once the log has been configured: its logger is used, and then it is
completed and written. -/
theorem event_of_routedEvent (hrouted : s.routed = true) {c : Call} {m : Method} {ms : Members}
    (stamp : List Char) (hbound : c.checkBound = .ok ()) (hevent : c.routedEvent = .ok (m, ms)) :
    s.event stamp c = System.done { s with tree := s.tree.use c.logger }
      ((route { s with tree := s.tree.use c.logger } stamp c.logger m.level c.arguments
        ms).mapError .event) := by
  rw [event, hbound]
  simp only [hrouted, if_true, hevent]
  rfl

/-- **What comes of an event that can be completed**: if its logger takes the level, the completed
event goes to the outlet of the logger. -/
theorem event_of_complete (hrouted : s.routed = true) {stamp : List Char} {c : Call} {m : Method}
    {ms done : Members} (hbound : c.checkBound = .ok ()) (hevent : c.routedEvent = .ok (m, ms))
    (harguments : c.arguments = [])
    (hcomplete : complete ⟨s.context, shownName c.logger, m.level.name, stamp⟩ [] ms = .ok done) :
    s.event stamp c = ⟨.ok (),
      if (s.tree.use c.logger).isEnabled c.logger m.level.weight then
        ((s.tree.use c.logger).outlet c.logger).writeEvent m.level.weight done
      else .none,
      { s with tree := s.tree.use c.logger }⟩ := by
  have hroute := route_of_complete (s := { s with tree := s.tree.use c.logger })
    (n := c.logger) hcomplete
  rw [event_of_routedEvent hrouted stamp hbound hevent, harguments, hroute]
  rfl

/-- An event that is taken and cannot be completed is not logged. -/
theorem event_of_complete_error (hrouted : s.routed = true) {stamp : List Char} {c : Call}
    {m : Method} {ms : Members} {e : EventError} (hbound : c.checkBound = .ok ())
    (hevent : c.routedEvent = .ok (m, ms)) (harguments : c.arguments = [])
    (htaken : (s.tree.use c.logger).isEnabled c.logger m.level.weight = true)
    (hcomplete : complete ⟨s.context, shownName c.logger, m.level.name, stamp⟩ [] ms = .error e) :
    (s.event stamp c).result = .error (.event e) := by
  rw [event_of_routedEvent hrouted stamp hbound hevent, harguments, route, if_pos htaken]
  dsimp only
  rw [hcomplete]
  rfl

/-- **A log that is ready takes every plain event.** -/
theorem event_of_isPlain (hs : s.IsReady) (stamp : List Char) {c : Call} (hc : c.IsPlain) :
    (s.event stamp c).result = .ok () := by
  have hbound : c.checkBound = .ok () := by
    rw [Call.checkBound, hc.bound]
    rfl
  obtain ⟨m, ms, hevent, hms⟩ := hc.routedEvent
  rw [event_of_complete hs.routed hbound hevent hc.arguments (complete_of_lacks hms hs.lacks)]

/-- A log that has just been configured is ready if no name that is kept was bound before. -/
theorem isReady_configure (hs : ∀ k ∈ keptKeys, s.context.Lacks k) (settings : Settings) :
    (s.configure settings).IsReady := ⟨rfl, hs⟩

/-- A log stays ready when members with other names are bound. -/
theorem IsReady.bind (hs : s.IsReady) {ms : Members} (hms : ∀ k ∈ keptKeys, ms.Lacks k) :
    (s.bind ms).IsReady :=
  ⟨hs.routed, fun k hk => (hs.lacks k hk).update (hms k hk)⟩

end System
end Log
end RouteProbe
